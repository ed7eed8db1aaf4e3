import ContainerLint.Text.Word
import ContainerLint.Pattern.Node

/-!
# Places in a text

A `Cursor` stands between two characters of a text. It knows how many characters and bytes are
before it, the character right before it, and the text after it. `Look.holds` says where the
conditions on places hold.
-/

namespace ContainerLint.Pattern

/-- A place in a text: the number of characters and of bytes before it, the character before it,
and the text after it. -/
structure Cursor where
  index : Nat
  offset : Nat
  before : Option Char
  rest : List Char
deriving DecidableEq, Repr

namespace Cursor

/-- The start of a text. -/
def start (text : List Char) : Cursor := ⟨0, 0, none, text⟩

/-- The place after `c`, which comes first in `rest`. -/
def past (k : Cursor) (c : Char) (rest : List Char) : Cursor :=
  ⟨k.index + 1, k.offset + c.utf8Size, some c, rest⟩

/-- The place one character on, if there is one. -/
def next? (k : Cursor) : Option Cursor :=
  match k.rest with
  | [] => none
  | c :: rest => some (k.past c rest)

/-- The text from `k` to a later place `l`. -/
def textTo (k l : Cursor) : List Char := k.rest.take (l.index - k.index)

end Cursor

/-- Whether the optional character is a word character. -/
def isWordBeside (ascii : Bool) : Option Char → Bool
  | none => false
  | some c => if ascii then Text.isAsciiWord c else Text.isWord c

/-- Whether a word edge of the kind lies between two characters, given whether each belongs to a
word. -/
def WordEdge.between (before after : Bool) : WordEdge → Bool
  | .either => before != after
  | .neither => before == after
  | .start => !before && after
  | .stop => before && !after
  | .startHalf => !before
  | .stopHalf => !after

/-- Whether a condition holds at a place. Where lines end with either of two characters, no line
starts or ends between a carriage return and the line feed after it. -/
def Look.holds (k : Cursor) : Look → Bool
  | .textStart => k.before.isNone
  | .textEnd => k.rest.isEmpty
  | .lineStart false =>
    match k.before with
    | none => true
    | some c => c = '\n'
  | .lineStart true =>
    match k.before with
    | none => true
    | some c => c = '\n' || (c = '\r' && k.rest.head? ≠ some '\n')
  | .lineEnd false =>
    match k.rest with
    | [] => true
    | c :: _ => c = '\n'
  | .lineEnd true =>
    match k.rest with
    | [] => true
    | c :: _ => c = '\r' || (c = '\n' && k.before ≠ some '\r')
  | .word ascii edge =>
    edge.between (isWordBeside ascii k.before) (isWordBeside ascii k.rest.head?)

end ContainerLint.Pattern
