/-!
# Pieces of output

A program prints on two streams, and what it prints is read in pieces. The pieces of one stream
keep their order; those of both streams come in any order.
-/

namespace ContainerLint

/-- The two streams that a program prints on. -/
inductive Stream
  | stdout | stderr
deriving DecidableEq, Repr

/-- A piece of output. -/
structure Chunk where
  stream : Stream
  bytes : List UInt8
deriving DecidableEq, Repr

/-- The bytes that came on a stream. -/
def Stream.bytes (s : Stream) (chunks : List Chunk) : List UInt8 :=
  (chunks.filter fun chunk => chunk.stream = s).flatMap Chunk.bytes

end ContainerLint
