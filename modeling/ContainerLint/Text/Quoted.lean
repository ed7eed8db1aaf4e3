import ContainerLint.Text.Printable

/-!
# Quoted text

`quoted` writes a text between double quotes so that every character of it can be seen: quotes,
backslashes and controls are escaped, and so are characters without a glyph of their own.
`escaped` writes the same without the quotes around it.
-/

namespace ContainerLint

namespace Text

/-- The hexadecimal digits of a number, in small letters. -/
def hexDigits (n : Nat) : List Char := Nat.toDigits 16 n

/-- The escape of a character by its code point. -/
def codeEscape (c : Char) : List Char := ['\\', 'u', '\x7b'] ++ hexDigits c.toNat ++ ['\x7d']

/-- A character as it is written in quoted text. -/
def quotedChar (c : Char) : List Char :=
  if c = '\x00' then ['\\', '0']
  else if c = '\t' then ['\\', 't']
  else if c = '\r' then ['\\', 'r']
  else if c = '\n' then ['\\', 'n']
  else if c = '"' then ['\\', '"']
  else if c = '\\' then ['\\', '\\']
  else if ' ' ≤ c ∧ c ≤ '~' then [c]
  else if isExtending c || !isPrintable c then codeEscape c
  else [c]

/-- Text with its special characters escaped. -/
def escaped (text : List Char) : List Char := text.flatMap quotedChar

end Text

/-- The text between double quotes, its special characters escaped. -/
def quoted (text : String) : String :=
  String.ofList ('"' :: Text.escaped text.toList ++ ['"'])

end ContainerLint
