import ContainerLint.Value

/-!
# Reading JSON

`Json.parse?` reads one JSON value from a text. Whole numbers that fit 64 bits, signed or
unsigned, stay whole; all other numbers are rounded to floating point, and so is negative zero.
-/

namespace ContainerLint.Json

/-- Skips spaces and line ends. -/
def skip (text : List Char) : List Char :=
  text.dropWhile fun c => c = ' ' || c = '\n' || c = '\t' || c = '\r'

/-- The value of a hexadecimal digit. -/
def hexValue? (c : Char) : Option Nat :=
  if '0' ≤ c ∧ c ≤ '9' then some (c.toNat - 48)
  else if 'a' ≤ c ∧ c ≤ 'f' then some (c.toNat - 87)
  else if 'A' ≤ c ∧ c ≤ 'F' then some (c.toNat - 55)
  else none

/-- The number that four hexadecimal digits stand for, and the text after them. -/
def hex4 : List Char → Option (Nat × List Char)
  | a :: b :: c :: d :: rest => do
    let a ← hexValue? a
    let b ← hexValue? b
    let c ← hexValue? c
    let d ← hexValue? d
    some (a * 4096 + b * 256 + c * 16 + d, rest)
  | _ => none

/-- Reads the escape of a code point after its `u`; two surrogates make one character. -/
def unicodeEscape (text : List Char) : Option (Char × List Char) := do
  let (n, rest) ← hex4 text
  if 0xD800 ≤ n ∧ n < 0xDC00 then
    match rest with
    | '\\' :: 'u' :: rest => do
      let (m, rest) ← hex4 rest
      if 0xDC00 ≤ m ∧ m < 0xE000 then
        some (Char.ofNat (0x10000 + (n - 0xD800) * 1024 + (m - 0xDC00)), rest)
      else none
    | _ => none
  else if 0xDC00 ≤ n ∧ n < 0xE000 then none
  else some (Char.ofNat n, rest)

/-- Reads what follows a backslash in a string. -/
def escape : List Char → Option (Char × List Char)
  | '"' :: rest => some ('"', rest)
  | '\\' :: rest => some ('\\', rest)
  | '/' :: rest => some ('/', rest)
  | 'b' :: rest => some ('\x08', rest)
  | 'f' :: rest => some ('\x0c', rest)
  | 'n' :: rest => some ('\n', rest)
  | 'r' :: rest => some ('\r', rest)
  | 't' :: rest => some ('\t', rest)
  | 'u' :: rest => unicodeEscape rest
  | _ => none

/-- Reads a string after its opening quote; `taken` holds its characters so far, the latest
first. -/
def stringFrom : Nat → List Char → List Char → Option (List Char × List Char)
  | 0, _, _ => none
  | _ + 1, _, [] => none
  | fuel + 1, taken, c :: rest =>
    if c = '"' then some (taken.reverse, rest)
    else if c = '\\' then
      match escape rest with
      | some (d, rest) => stringFrom fuel (d :: taken) rest
      | none => none
    else if c.toNat < 0x20 then none
    else stringFrom fuel (c :: taken) rest

/-- The number that decimal digits stand for. -/
def natOf (digits : List Char) : Nat := digits.foldl (fun n d => n * 10 + (d.toNat - 48)) 0

/-- Reads an exponent, if there is one. -/
def exponent (text : List Char) : Option (Option Int × List Char) :=
  match text with
  | e :: rest =>
    if e = 'e' ∨ e = 'E' then
      let (negative, rest) :=
        match rest with
        | '+' :: r => (false, r)
        | '-' :: r => (true, r)
        | r => (false, r)
      let digits := rest.takeWhile Char.isDigit
      if digits.isEmpty then none
      else
        let n : Int := natOf digits
        some (some (if negative then -n else n), rest.dropWhile Char.isDigit)
    else some (none, text)
  | [] => some (none, [])

/-- The floating-point number `digits * 10 ^ exponent`, rounded. Exponents out of all range are
cut, since zero or infinity is reached long before. -/
def floatOf (negative : Bool) (digits : Nat) (exponent : Int) : Value :=
  let e := if exponent < -5000 then -5000 else if 5000 < exponent then 5000 else exponent
  let size := if e < 0 then Float.ofScientific digits true (-e).toNat
    else Float.ofScientific digits false e.toNat
  .float (if negative then (-size).toBits else size.toBits)

/-- Reads a number after its sign. -/
def number (negative : Bool) (text : List Char) : Option (Value × List Char) := do
  let whole := text.takeWhile Char.isDigit
  let rest := text.dropWhile Char.isDigit
  if whole.isEmpty ∨ (whole.length > 1 ∧ whole.head? = some '0') then none
  else
    let (fraction, rest) ←
      match rest with
      | '.' :: rest =>
        let digits := rest.takeWhile Char.isDigit
        if digits.isEmpty then none else some (digits, rest.dropWhile Char.isDigit)
      | rest => some ([], rest)
    let (exp, rest) ← exponent rest
    let n := natOf whole
    if fraction.isEmpty ∧ exp.isNone then
      if negative then
        if 0 < n ∧ n ≤ 9223372036854775808 then some (.int (-(n : Int)), rest)
        else some (floatOf true n 0, rest)
      else if n < 18446744073709551616 then some (.int n, rest)
      else some (floatOf false n 0, rest)
    else
      let digits := natOf (whole ++ fraction)
      some (floatOf negative digits ((exp.getD 0) - fraction.length), rest)

/-- What can be open around the place that is being read: an array with its items so far, or an
object with its members so far and the key at hand; the latest come first. -/
inductive Open
  | items (found : List Value)
  | members (found : List (String × Value)) (key : String)

/-- Reads a key and the colon after it. -/
def key (text : List Char) : Option (String × List Char) :=
  match skip text with
  | '"' :: rest => do
    let (name, rest) ← stringFrom (rest.length + 1) [] rest
    match skip rest with
    | ':' :: rest => some (String.ofList name, rest)
    | _ => none
  | _ => none

mutual

/-- Reads a value. -/
def valueFrom (fuel : Nat) (text : List Char) : Option (Value × List Char) :=
  match fuel with
  | 0 => none
  | fuel + 1 =>
    match skip text with
    | 'n' :: 'u' :: 'l' :: 'l' :: rest => some (.null, rest)
    | 't' :: 'r' :: 'u' :: 'e' :: rest => some (.bool true, rest)
    | 'f' :: 'a' :: 'l' :: 's' :: 'e' :: rest => some (.bool false, rest)
    | '"' :: rest => do
      let (s, rest) ← stringFrom (rest.length + 1) [] rest
      some (.str (String.ofList s), rest)
    | '[' :: rest =>
      match skip rest with
      | ']' :: rest => some (.arr [], rest)
      | rest => itemsFrom fuel [] rest
    | '\x7b' :: rest =>
      match skip rest with
      | '\x7d' :: rest => some (.obj [], rest)
      | rest => membersFrom fuel [] rest
    | '-' :: rest => number true rest
    | rest => number false rest

/-- Reads the items of an array up to its end; `found` holds those before, the latest first. -/
def itemsFrom (fuel : Nat) (found : List Value) (text : List Char) :
    Option (Value × List Char) :=
  match fuel with
  | 0 => none
  | fuel + 1 => do
    let (v, rest) ← valueFrom fuel text
    match skip rest with
    | ']' :: rest => some (.arr (v :: found).reverse, rest)
    | ',' :: rest => itemsFrom fuel (v :: found) rest
    | _ => none

/-- Reads the members of an object up to its end; `found` holds those before, the latest first. -/
def membersFrom (fuel : Nat) (found : List (String × Value)) (text : List Char) :
    Option (Value × List Char) :=
  match fuel with
  | 0 => none
  | fuel + 1 => do
    let (name, rest) ← key text
    let (v, rest) ← valueFrom fuel rest
    match skip rest with
    | '\x7d' :: rest => some (.ofMembers ((name, v) :: found).reverse, rest)
    | ',' :: rest => membersFrom fuel ((name, v) :: found) rest
    | _ => none

end

/-- Reads a text that holds one value. -/
def parse? (text : String) : Option Value :=
  match valueFrom (2 * text.toList.length + 2) text.toList with
  | some (v, rest) => if (skip rest).isEmpty then some v else none
  | none => none

end ContainerLint.Json
