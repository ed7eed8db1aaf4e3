/-!
# Numbers in text

`word32?` reads a number of 32 bits the way linters print line and column numbers: ASCII figures
with an optional plus sign in front, and nothing else.
-/

namespace ContainerLint.Text

/-- The number that decimal figures stand for. -/
def figuresValue (figures : List Char) : Nat :=
  figures.foldl (fun n c => n * 10 + (c.toNat - 48)) 0

/-- The number below 2³² that the figures stand for, if they are figures and at least one. -/
def figures32? (figures : List Char) : Option UInt32 :=
  if figures.isEmpty || !figures.all Char.isDigit then none
  else if figuresValue figures < 4294967296 then some (UInt32.ofNat (figuresValue figures))
  else none

/-- The number below 2³² that a text stands for. -/
def word32? : List Char → Option UInt32
  | '+' :: rest => figures32? rest
  | text => figures32? text

end ContainerLint.Text
