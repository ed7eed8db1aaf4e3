import ContainerLint.Text.CharSet
import ContainerLint.Pattern.Syntax

/-!
# Patterns with their meaning fixed

A `Node` is a pattern in which every flag has been applied: sets of characters are explicit and
conditions on places say exactly where they hold. The functions `cat`, `ofBranches` and `repeated`
build nodes in a normal form: sequences and alternatives lean to the right and are not nested in
their own kind, neighbouring literals are one literal, alternatives of single characters are a
set, and branches that all start with the same parts share them.
-/

namespace ContainerLint.Pattern

/-- A condition on the place between two characters. -/
inductive Look
  | textStart | textEnd
  | lineStart (crlf : Bool) | lineEnd (crlf : Bool)
  | word (ascii : Bool) (edge : WordEdge)
deriving DecidableEq, Repr

/-- A pattern with its meaning fixed. -/
inductive Node
  | empty
  | literal (text : List Char)
  | set (chars : CharSet)
  | look (l : Look)
  | rep (sub : Node) (count : Count) (greedy : Bool)
  | capture (index : Nat) (sub : Node)
  | cat (a b : Node)
  | alt (a b : Node)
deriving DecidableEq, Repr

/-- The number of bytes in UTF-8 of the character with a number. -/
def codeLength (code : Nat) : Nat :=
  if code < 0x80 then 1 else if code < 0x800 then 2 else if code < 0x10000 then 3 else 4

/-- The number of bytes of a text in UTF-8. -/
def textLength : List Char → Nat
  | [] => 0
  | c :: text => codeLength c.toNat + textLength text

namespace Node

/-- The least number of bytes that a node matches; none if it contains a part that matches
nothing at all. -/
def minLength : Node → Option Nat
  | .empty => some 0
  | .literal text => some (textLength text)
  | .set chars => chars.ranges.head?.map fun r => codeLength r.1
  | .look _ => some 0
  | .rep sub count _ => sub.minLength.map (· * count.min)
  | .capture _ sub => sub.minLength
  | .cat a b => a.minLength.bind fun m => b.minLength.map (m + ·)
  | .alt a b => a.minLength.bind fun m => b.minLength.map (min m ·)

/-- The greatest number of bytes that a node matches; none if there is no bound. -/
def maxLength : Node → Option Nat
  | .empty => some 0
  | .literal text => some (textLength text)
  | .set chars => chars.last?.map codeLength
  | .look _ => some 0
  | .rep sub count _ => count.max.bind fun n => sub.maxLength.map (· * n)
  | .capture _ sub => sub.maxLength
  | .cat a b => a.maxLength.bind fun m => b.maxLength.map (m + ·)
  | .alt a b => a.maxLength.bind fun m => b.maxLength.map (max m ·)

/-- The greatest number of a group that captures. -/
def captures : Node → Nat
  | .rep sub _ _ => sub.captures
  | .capture index sub => max index sub.captures
  | .cat a b => max a.captures b.captures
  | .alt a b => max a.captures b.captures
  | _ => 0

/-- The parts of a sequence. -/
def catParts : Node → List Node
  | .cat a b => a :: b.catParts
  | .empty => []
  | n => [n]

/-- The branches of an alternative. -/
def altParts : Node → List Node
  | .alt a b => a :: b.altParts
  | n => [n]

/-- Puts a part in front of a sequence of parts, joining literals. -/
def consPart (part : Node) (parts : List Node) : List Node :=
  match part, parts with
  | .empty, parts => parts
  | .literal s, .literal t :: rest => .literal (s ++ t) :: rest
  | part, parts => part :: parts

/-- The sequence of parts that are in normal form. -/
def ofParts : List Node → Node
  | [] => .empty
  | [a] => a
  | a :: rest => .cat a (ofParts rest)

/-- The sequence of nodes. -/
def sequence (nodes : List Node) : Node :=
  ofParts ((nodes.flatMap catParts).foldr consPart [])

/-- The set that a set of characters stands for as a node: one member is a literal. -/
def ofSet (chars : CharSet) : Node :=
  match chars.single? with
  | some c => .literal [c]
  | none => .set chars

/-- The set of characters that a branch matches if it matches single characters only. -/
def asSet? : Node → Option CharSet
  | .literal [c] => some (.singleton c)
  | .set chars => some chars
  | _ => none

/-- The parts of a sequence of at least two parts. -/
def sequenceParts? : Node → Option (List Node)
  | .cat a b => some (a :: b.catParts)
  | _ => none

/-- The longest list with which both lists start. -/
def commonStart : List Node → List Node → List Node
  | a :: as, b :: bs => if a = b then a :: commonStart as bs else []
  | _, _ => []

/-- The parts with which all of the lists start. -/
def sharedStart : List (List Node) → List Node
  | [] => []
  | parts :: rest => rest.foldl commonStart parts

/-- The alternative of branches that are in normal form. -/
def ofAlternatives : List Node → Node
  | [] => .set .empty
  | [a] => a
  | a :: rest => .alt a (ofAlternatives rest)

/-- The alternative between branches that are no alternatives themselves: a set if every branch
matches single characters. -/
def plainBranches (branches : List Node) : Node :=
  match branches with
  | [a] => a
  | branches =>
    match branches.mapM asSet? with
    | some sets => ofSet (sets.foldl CharSet.union .empty)
    | none => ofAlternatives branches

/-- The alternative between branches, the parts with which all of them start being shared.
`fuel` bounds how often parts are shared. -/
def branchesFrom : Nat → List Node → Node
  | 0, branches => plainBranches branches
  | fuel + 1, branches =>
    let branches := branches.flatMap altParts
    match branches.length ≤ 1 || (branches.mapM asSet?).isSome, branches.mapM sequenceParts? with
    | false, some lists =>
      match sharedStart lists with
      | [] => plainBranches branches
      | shared =>
        let rests := lists.map fun parts => ofParts (parts.drop shared.length)
        sequence (shared ++ [branchesFrom fuel rests])
    | _, _ => plainBranches branches

/-- The number of parts of a node, a bound for the parts that its branches can share. -/
def weight : Node → Nat
  | .cat a b => a.weight + b.weight
  | .alt a b => a.weight + b.weight
  | _ => 1

/-- The alternative between branches. -/
def ofBranches : List Node → Node
  | [n] => n
  | branches => branchesFrom (branches.foldl (fun n b => n + b.weight) 1) branches

/-- A repetition. What matches the empty text alone is repeated at most once, and a part that
is taken no time at all is left out. -/
def repeated (sub : Node) (count : Count) (greedy : Bool) : Node :=
  let count : Count :=
    if sub.maxLength = some 0 then
      ⟨min count.min 1, some (match count.max with | some m => min m 1 | none => 1)⟩
    else count
  if count = ⟨0, some 0⟩ then .empty
  else if count = ⟨1, some 1⟩ then sub
  else .rep sub count greedy

end Node

end ContainerLint.Pattern
