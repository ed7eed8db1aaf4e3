/-!
# Written patterns

The parts of a pattern as they are written, before flags are given their meaning. `Ast` is a whole
pattern, `SetExpr` the inside of a bracketed character class. Sequences and alternatives are
binary and lean to the right. `Ast.depth` counts how deeply the parts of a pattern are nested,
a whole sequence, alternative or list of class members counting once.
-/

namespace ContainerLint.Pattern

/-- The switches that change the meaning of a pattern. -/
inductive Flag
  | caseless | multiLine | dotAll | swapGreed | unicode | crlf | ignoreBlank
deriving DecidableEq, Repr

/-- A switch as it is written in a group of flags, turned on or off. -/
structure FlagChange where
  flag : Flag
  on : Bool
deriving DecidableEq, Repr

/-- The places at the edge of a word that a pattern can ask for. -/
inductive WordEdge
  | either | neither | start | stop | startHalf | stopHalf
deriving DecidableEq, Repr

/-- A condition on a place in the text, as written. -/
inductive Assertion
  | lineStart | lineEnd | textStart | textEnd
  | word (edge : WordEdge)
deriving DecidableEq, Repr

/-- The classes that have a one letter escape. -/
inductive Shorthand
  | digit | space | word
deriving DecidableEq, Repr

/-- How a property of characters is asked for. -/
inductive PropertyQuery
  | letter (c : Char)
  | named (name : List Char)
  | valued (name value : List Char)
deriving DecidableEq, Repr

/-- The named classes of ASCII characters. -/
inductive AsciiClass
  | alnum | alpha | ascii | blank | cntrl | digit | graph | lower | print | punct | space | upper
  | word | xdigit
deriving DecidableEq, Repr

/-- A part of a pattern that takes no other part. A character is `raw` when it is written as two
hexadecimal digits, which name a byte where Unicode is off. -/
inductive Atom
  | char (c : Char) (raw : Bool)
  | dot
  | assertion (a : Assertion)
  | shorthand (negated : Bool) (s : Shorthand)
  | property (negated : Bool) (query : PropertyQuery)
deriving DecidableEq, Repr

/-- The operations on sets of characters. -/
inductive SetOp
  | inter | diff | symmDiff
deriving DecidableEq, Repr

/-- The inside of a bracketed class. -/
inductive SetExpr
  | empty
  | char (c : Char) (raw : Bool)
  | span (lo : Char) (loRaw : Bool) (hi : Char) (hiRaw : Bool)
  | ascii (negated : Bool) (name : AsciiClass)
  | shorthand (negated : Bool) (s : Shorthand)
  | property (negated : Bool) (query : PropertyQuery)
  | bracket (negated : Bool) (inner : SetExpr)
  | join (a b : SetExpr)
  | op (kind : SetOp) (a b : SetExpr)
deriving Repr

/-- How often a part is repeated: `max` is absent when there is no limit. -/
structure Count where
  min : Nat
  max : Option Nat
deriving DecidableEq, Repr

/-- A written pattern. -/
inductive Ast
  | empty
  | flags (changes : List FlagChange)
  | atom (a : Atom)
  | set (negated : Bool) (inner : SetExpr)
  | rep (sub : Ast) (count : Count) (greedy : Bool)
  | capture (index : Nat) (sub : Ast)
  | group (changes : List FlagChange) (sub : Ast)
  | cat (a b : Ast)
  | alt (a b : Ast)
deriving Repr

namespace SetExpr

/-- The nesting of a class. `joined` says that the expression continues a list of members. -/
def depthFrom (joined : Bool) : SetExpr → Nat
  | .bracket _ inner => inner.depthFrom false + 1
  | .join a b => max (a.depthFrom false) (b.depthFrom true) + (if joined then 0 else 1)
  | .op _ a b => max (a.depthFrom false) (b.depthFrom false) + 1
  | _ => 0

/-- Joins the members of a class. -/
def ofMembers : List SetExpr → SetExpr
  | [] => .empty
  | [m] => m
  | m :: rest => .join m (ofMembers rest)

end SetExpr

namespace Ast

/-- The nesting of a pattern. `inCat` and `inAlt` say that the pattern continues a sequence or
an alternative. -/
def depthFrom (inCat inAlt : Bool) : Ast → Nat
  | .set _ inner => inner.depthFrom false + 1
  | .rep sub _ _ => sub.depthFrom false false + 1
  | .capture _ sub => sub.depthFrom false false + 1
  | .group _ sub => sub.depthFrom false false + 1
  | .cat a b => max (a.depthFrom false false) (b.depthFrom true false) + (if inCat then 0 else 1)
  | .alt a b => max (a.depthFrom false false) (b.depthFrom false true) + (if inAlt then 0 else 1)
  | _ => 0

/-- The nesting of a whole pattern. -/
def depth (a : Ast) : Nat := a.depthFrom false false

/-- The sequence of the given parts. -/
def ofSequence : List Ast → Ast
  | [] => .empty
  | [a] => a
  | a :: rest => .cat a (ofSequence rest)

/-- The alternative between the given branches. -/
def ofBranches : List Ast → Ast
  | [] => .empty
  | [a] => a
  | a :: rest => .alt a (ofBranches rest)

end Ast

end ContainerLint.Pattern
