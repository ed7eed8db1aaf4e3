import ContainerLint.Text.CharSet

/-!
# Blank characters

The characters with the property White_Space, and the three operations on text that look at
them: `trim`, `trimEnd` and `words`.
-/

namespace ContainerLint.Text

/-- The ranges of the property White_Space. -/
def blankRanges : List (Nat × Nat) :=
  [(9, 13), (32, 32), (133, 133), (160, 160), (5760, 5760), (8192, 8202), (8232, 8233),
    (8239, 8239), (8287, 8287), (12288, 12288)]

/-- Whether `c` has the property White_Space. -/
def isBlank (c : Char) : Bool := CharSet.inRanges blankRanges c.toNat

/-- The text without its leading blanks. -/
def trimStart (text : List Char) : List Char := text.dropWhile isBlank

/-- The text without its trailing blanks. -/
def trimEnd : List Char → List Char
  | [] => []
  | c :: rest =>
    match trimEnd rest with
    | [] => if isBlank c then [] else [c]
    | kept => c :: kept

/-- The text without the blanks at its ends. -/
def trim (text : List Char) : List Char := trimEnd (trimStart text)

/-- Adds `c` in front of the first word of `words`. -/
def extendWord (c : Char) : List (List Char) → List (List Char)
  | [] => [[c]]
  | word :: rest => (c :: word) :: rest

/-- The maximal runs of characters that are not blank, in order. -/
def words : List Char → List (List Char)
  | [] => []
  | c :: rest =>
    if isBlank c then words rest
    else
      match rest with
      | [] => [[c]]
      | d :: _ => if isBlank d then [c] :: words rest else extendWord c (words rest)

end ContainerLint.Text

namespace ContainerLint

/-- The text without the blanks at its ends. -/
def trimmed (text : String) : String := String.ofList (Text.trim text.toList)

/-- The text without its trailing blanks. -/
def trimmedEnd (text : String) : String := String.ofList (Text.trimEnd text.toList)

/-- The words of `text`: its maximal runs of characters that are not blank. -/
def wordsOf (text : String) : List String := (Text.words text.toList).map String.ofList

end ContainerLint
