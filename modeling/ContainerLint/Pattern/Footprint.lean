import ContainerLint.Pattern.Node

/-!
# The space that a pattern takes

A pattern is refused when its automaton over bytes would be too large. `Node.footprint` computes
the bytes of that automaton without building it: 32 bytes for a state, 8 for each transition of a
state with several, 4 for each way out of a choice. A set of characters beyond ASCII becomes a
tree over the byte ranges of its characters, read from their first byte on.
-/

namespace ContainerLint.Pattern

/-- The largest automaton that is accepted. -/
def footprintLimit : Nat := 10485760

/-- The bytes of the UTF-8 form of a code point of the given length. -/
def utf8Bytes (length code : Nat) : List Nat :=
  match length with
  | 1 => [code]
  | 2 => [0xC0 + code / 64, 0x80 + code % 64]
  | 3 => [0xE0 + code / 4096, 0x80 + code / 64 % 64, 0x80 + code % 64]
  | _ => [0xF0 + code / 262144, 0x80 + code / 4096 % 64, 0x80 + code / 64 % 64, 0x80 + code % 64]

/-- Splits a range of code points so that each piece is a product of byte ranges. The second
argument lists the sizes of the blocks at which pieces may have to end. -/
def splitRange : Nat → Nat → Nat → List (Nat × Nat)
  | 0, lo, hi => [(lo, hi)]
  | fuel + 1, lo, hi =>
    if hi < lo then []
    else
      match [0x7F, 0x7FF, 0xD7FF, 0xDFFF, 0xFFFF].find? fun m => lo ≤ m ∧ m < hi with
      | some m => splitRange fuel lo m ++ splitRange fuel (m + 1) hi
      | none =>
        if hi < 128 then [(lo, hi)]
        else
          match [64, 4096, 262144].find? fun block =>
            lo / block ≠ hi / block ∧ (lo % block ≠ 0 ∨ hi % block ≠ block - 1) with
          | some block =>
            if lo % block ≠ 0 then
              let cut := lo / block * block + block
              splitRange fuel lo (cut - 1) ++ splitRange fuel cut hi
            else
              let cut := hi / block * block
              splitRange fuel lo (cut - 1) ++ splitRange fuel cut hi
          | none => [(lo, hi)]

/-- The byte ranges of a piece. -/
def byteRanges (piece : Nat × Nat) : List (Nat × Nat) :=
  let length := codeLength piece.1
  (utf8Bytes length piece.1).zip (utf8Bytes length piece.2)

/-- The number of byte ranges that two sequences share at their start. -/
def sharedLength : List (Nat × Nat) → List (Nat × Nat) → Nat
  | a :: as, b :: bs => if a = b then sharedLength as bs + 1 else 0
  | _, _ => 0

/-- The states of the tree over byte sequences that come in order. -/
def treeStates (before : List (Nat × Nat)) : List (List (Nat × Nat)) → Nat
  | [] => 0
  | s :: rest => s.length - sharedLength before s + treeStates s rest

/-- The byte sequences of a set. -/
def byteSequences (s : CharSet) : List (List (Nat × Nat)) :=
  (s.ranges.flatMap fun r =>
    (splitRange 64 r.1 r.2).filter fun p => p.1 < 0xD800 || 0xDFFF < p.1).map byteRanges

/-- The space of a set of characters. -/
def setFootprint (s : CharSet) : Nat :=
  if s.ranges.all fun r => r.2 < 128 then 64 + 8 * s.ranges.length
  else
    let sequences := byteSequences s
    64 + 4 * sequences.length + 32 * treeStates [] sequences

namespace Node

/-- The space of a repetition of a part that takes `size` bytes. -/
def repFootprint (size : Nat) (count : Count) : Nat :=
  match count.max with
  | none => if count.min = 0 then size + 72 else count.min * size + 40
  | some m => count.min * size + (m - count.min) * (size + 40) + 32

/-- The space of a node. -/
def footprint : Node → Nat
  | .empty => 32
  | .literal text => 32 * textLength text
  | .set chars => setFootprint chars
  | .look _ => 32
  | .rep sub count _ => repFootprint sub.footprint count
  | .capture _ sub => sub.footprint + 64
  | .cat a b => a.footprint + b.footprint
  | .alt a b => a.footprint + b.footprint + 72

end Node

end ContainerLint.Pattern
