import ContainerLint.Text.CharSet

/-!
# Named properties of characters

A property of characters has a few names and a set of characters. Large sets are kept as short
text: `RangeCode.ranges` reads increasing ranges off a text that holds, for each range, the
number of code points skipped since the range before and the length of the range less one. Each
number is written in base 32, the least digit first. The digits are the capital letters, the
small letters, the ten figures, the full stop and the low line; a digit of value 32 or more
counts for 32 less and says that another digit of the number follows.
-/

namespace ContainerLint

namespace RangeCode

/-- The value of a digit character. -/
def digit (c : Char) : Nat :=
  if 'A' ≤ c ∧ c ≤ 'Z' then c.toNat - 'A'.toNat
  else if 'a' ≤ c ∧ c ≤ 'z' then c.toNat - 'a'.toNat + 26
  else if '0' ≤ c ∧ c ≤ '9' then c.toNat - '0'.toNat + 52
  else if c = '.' then 62 else 63

/-- Reads numbers; `value` holds the digits of the number at hand, of which the next has weight
`weight`. -/
def numbersFrom (value weight : Nat) : List Char → List Nat
  | [] => []
  | c :: rest =>
    if digit c < 32 then (value + digit c * weight) :: numbersFrom 0 1 rest
    else numbersFrom (value + (digit c - 32) * weight) (weight * 32) rest

/-- The numbers that the lines of a text hold. -/
def numbers (code : List String) : List Nat := numbersFrom 0 1 (code.flatMap String.toList)

/-- Reads ranges off the numbers, the first skip counted from `start`. -/
def rangesFrom (start : Nat) : List Nat → List (Nat × Nat)
  | skip :: length :: rest =>
    (start + skip, start + skip + length) :: rangesFrom (start + skip + length + 1) rest
  | _ => []

/-- The ranges that the lines of a text hold. -/
def ranges (code : List String) : List (Nat × Nat) := rangesFrom 0 (numbers code)

end RangeCode

/-- A property of characters: the names it goes by, folded to small letters without spaces, low
lines and hyphens, and the lines of the text that holds its ranges. -/
structure CharProperty where
  names : List String
  code : List String

namespace CharProperty

/-- The characters that have the property. -/
def members (p : CharProperty) : CharSet := .ofRanges (RangeCode.ranges p.code)

/-- The property of the list that goes by `name`. -/
def named (name : String) (properties : List CharProperty) : Option CharProperty :=
  properties.find? fun p => p.names.contains name

end CharProperty

end ContainerLint
