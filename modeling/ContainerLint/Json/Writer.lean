import ContainerLint.Value

/-!
# Writing JSON

`Json.compact` writes a value without any space, `Json.pretty` with one member or item to a line,
indented by two spaces for each level.
-/

namespace ContainerLint.Json

/-- A digit of a base up to 16, in small letters. -/
def digitChar (n : Nat) : Char := if n < 10 then Char.ofNat (48 + n) else Char.ofNat (87 + n)

/-- A character as it is written in a string. -/
def stringChar (c : Char) : List Char :=
  if c = '"' then ['\\', '"']
  else if c = '\\' then ['\\', '\\']
  else if c = '\n' then ['\\', 'n']
  else if c = '\r' then ['\\', 'r']
  else if c = '\t' then ['\\', 't']
  else if c = '\x08' then ['\\', 'b']
  else if c = '\x0c' then ['\\', 'f']
  else if c.toNat < 0x20 then
    ['\\', 'u', '0', '0', digitChar (c.toNat / 16), digitChar (c.toNat % 16)]
  else [c]

/-- A string between its quotes. -/
def string (s : String) : List Char := '"' :: s.toList.flatMap stringChar ++ ['"']

/-- A value that has no parts. -/
def scalar : Value → List Char
  | .null => "null".toList
  | .bool true => "true".toList
  | .bool false => "false".toList
  | .int n => (toString n).toList
  | .float bits => (Decimal.ofBits bits).text.toList
  | .str s => string s
  | _ => []

mutual

/-- A value without spaces. -/
def compactChars : Value → List Char
  | .arr items => '[' :: compactItems items ++ [']']
  | .obj members => '\x7b' :: compactMembers members ++ ['\x7d']
  | v => scalar v

/-- The items of an array, with commas between them. -/
def compactItems : List Value → List Char
  | [] => []
  | [v] => compactChars v
  | v :: w :: rest => compactChars v ++ ',' :: compactItems (w :: rest)

/-- The members of an object, with commas between them. -/
def compactMembers : List (String × Value) → List Char
  | [] => []
  | [(key, v)] => string key ++ ':' :: compactChars v
  | (key, v) :: m :: rest =>
    string key ++ ':' :: compactChars v ++ ',' :: compactMembers (m :: rest)

end

/-- A line break and the indentation of a level. -/
def lineBreak (level : Nat) : List Char := '\n' :: List.replicate (2 * level) ' '

mutual

/-- A value with one member or item to a line, standing at a level. -/
def prettyChars (level : Nat) : Value → List Char
  | .arr [] => ['[', ']']
  | .arr (v :: rest) =>
    '[' :: prettyItems (level + 1) (v :: rest) ++ lineBreak level ++ [']']
  | .obj [] => ['\x7b', '\x7d']
  | .obj (m :: rest) =>
    '\x7b' :: prettyMembers (level + 1) (m :: rest) ++ lineBreak level ++ ['\x7d']
  | v => scalar v

/-- The items of an array, each on a line of its own. -/
def prettyItems (level : Nat) : List Value → List Char
  | [] => []
  | [v] => lineBreak level ++ prettyChars level v
  | v :: w :: rest =>
    lineBreak level ++ prettyChars level v ++ ',' :: prettyItems level (w :: rest)

/-- The members of an object, each on a line of its own. -/
def prettyMembers (level : Nat) : List (String × Value) → List Char
  | [] => []
  | [(key, v)] => lineBreak level ++ string key ++ ':' :: ' ' :: prettyChars level v
  | (key, v) :: m :: rest =>
    lineBreak level ++ string key ++ ':' :: ' ' :: prettyChars level v ++
      ',' :: prettyMembers level (m :: rest)

end

/-- The text of a value without spaces. -/
def compact (v : Value) : String := String.ofList (compactChars v)

/-- The text of a value over several lines. -/
def pretty (v : Value) : String := String.ofList (prettyChars 0 v)

end ContainerLint.Json
