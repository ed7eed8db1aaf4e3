import ContainerLint.Text.Utf8

/-!
# Line buffers

A `LineBuffer` takes the bytes of a stream in pieces and gives them back as text in complete
lines. It holds back the bytes after the last line feed, so a character that was cut between two
pieces is whole before it is decoded.
-/

namespace ContainerLint

/-- The bytes after the last line feed of a stream. -/
structure LineBuffer where
  pending : List UInt8
deriving DecidableEq, Repr

namespace LineBuffer

/-- A buffer that has taken nothing. -/
def empty : LineBuffer := ⟨[]⟩

/-- Cuts bytes after their last line feed, if they have one. -/
def cut : List UInt8 → Option (List UInt8 × List UInt8)
  | [] => none
  | b :: rest =>
    match cut rest with
    | some (lines, left) => some (b :: lines, left)
    | none => if b = 10 then some ([b], rest) else none

/-- The text of bytes that may be wrong. -/
def decoded (bytes : List UInt8) : String := String.ofList (Utf8.decodeLossy bytes)

/-- Takes bytes, and gives the lines that are complete now. -/
def push (b : LineBuffer) (bytes : List UInt8) : LineBuffer × Option String :=
  match cut (b.pending ++ bytes) with
  | some (lines, left) => (⟨left⟩, some (decoded lines))
  | none => (⟨b.pending ++ bytes⟩, none)

/-- Gives what is left when the stream has ended. -/
def finish (b : LineBuffer) : LineBuffer × Option String :=
  if b.pending.isEmpty then (empty, none) else (empty, some (decoded b.pending))

end LineBuffer

end ContainerLint
