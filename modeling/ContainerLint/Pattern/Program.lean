import ContainerLint.Pattern.Node

/-!
# Programs of patterns

A pattern is carried out as a list of instructions. `Node.code` writes the instructions of a node
so that they start at a given address, are entered at their first instruction and are left at the
address after their last one; `Node.size` is their number. A choice tries its first target before
its second one. What can match the empty text is repeated by testing after each round, so that a
round which takes nothing ends the repetition.
-/

namespace ContainerLint.Pattern

/-- One instruction of a program. Addresses are absolute. -/
inductive Instruction
  | char (c : Char)
  | set (chars : CharSet)
  | look (l : Look)
  | save (slot : Nat)
  | split (first second : Nat)
  | jump (target : Nat)
  | accept
deriving DecidableEq, Repr

/-- A choice between going into a part and going past it; a greedy choice goes in first. -/
def Instruction.enter (greedy : Bool) (inside past : Nat) : Instruction :=
  if greedy then .split inside past else .split past inside

namespace Node

/-- Whether the least length of a node is known and positive. -/
def takesText (n : Node) : Bool :=
  match n.minLength with
  | some (_ + 1) => true
  | _ => false

/-- The number of instructions of a repetition of a part with `size` instructions. -/
def repSize (size : Nat) (count : Count) : Nat :=
  match count.max with
  | none =>
    match count.min with
    | 0 => size + 2
    | n + 1 => n * size + size + 1
  | some m => count.min * size + (m - count.min) * (size + 1)

/-- The number of instructions of a node. -/
def size : Node → Nat
  | .empty => 0
  | .literal text => text.length
  | .set _ => 1
  | .look _ => 1
  | .rep sub count _ => repSize sub.size count
  | .capture _ sub => sub.size + 2
  | .cat a b => a.size + b.size
  | .alt a b => a.size + b.size + 2

/-- `n` copies of a part with `size` instructions, one after the other from `base` on. -/
def copies (code : Nat → List Instruction) (size : Nat) : Nat → Nat → List Instruction
  | 0, _ => []
  | n + 1, base => code base ++ copies code size n (base + size)

/-- `n` copies of a part, each of which may be left out together with all later ones; `stop` is
the address after the last of them. -/
def options (code : Nat → List Instruction) (size : Nat) (greedy : Bool) (stop : Nat) :
    Nat → Nat → List Instruction
  | 0, _ => []
  | n + 1, base =>
    Instruction.enter greedy (base + 1) stop ::
      (code (base + 1) ++ options code size greedy stop n (base + 1 + size))

/-- The instructions of a repetition. -/
def repCode (code : Nat → List Instruction) (size : Nat) (takesText : Bool) (count : Count)
    (greedy : Bool) (base : Nat) : List Instruction :=
  match count.max with
  | none =>
    match count.min with
    | 0 =>
      let stop := base + size + 2
      if takesText then
        Instruction.enter greedy (base + 1) stop :: (code (base + 1) ++ [.jump base])
      else
        Instruction.enter greedy (base + 1) stop ::
          (code (base + 1) ++ [Instruction.enter greedy (base + 1) stop])
    | n + 1 =>
      let last := base + n * size
      copies code size n base ++
        (code last ++ [Instruction.enter greedy last (last + size + 1)])
  | some m =>
    let start := base + count.min * size
    copies code size count.min base ++
      options code size greedy (start + (m - count.min) * (size + 1)) (m - count.min) start

/-- The instructions of a node, written from address `base` on. -/
def code : Node → Nat → List Instruction
  | .empty, _ => []
  | .literal text, _ => text.map .char
  | .set chars, _ => [.set chars]
  | .look l, _ => [.look l]
  | .rep sub count greedy, base =>
    repCode sub.code sub.size sub.takesText count greedy base
  | .capture index sub, base =>
    .save (2 * index) :: (sub.code (base + 1) ++ [.save (2 * index + 1)])
  | .cat a b, base => a.code base ++ b.code (base + a.size)
  | .alt a b, base =>
    .split (base + 1) (base + a.size + 2) ::
      (a.code (base + 1) ++ .jump (base + a.size + b.size + 2) :: b.code (base + a.size + 2))

end Node

/-- A program: its instructions by address. The entry is address 0. -/
structure Program where
  instructions : Array Instruction

/-- The program of a pattern, which saves the whole match as group 0. -/
def Node.program (n : Node) : Program :=
  ⟨((Node.capture 0 n).code 0 ++ [Instruction.accept]).toArray⟩

end ContainerLint.Pattern
