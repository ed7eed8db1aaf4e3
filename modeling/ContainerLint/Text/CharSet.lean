/-!
# Sets of characters

A `CharSet` lists the inclusive ranges of code points of its members, in increasing order and
with a gap between neighbours. `insertRange` keeps that form, so that two sets built through it
are equal when they have the same members. Code points of the surrogate block are no characters:
the ranges on both sides of the block touch.
-/

namespace ContainerLint

/-- A set of characters as increasing, disjoint, inclusive ranges of code points. -/
structure CharSet where
  ranges : List (Nat × Nat)
deriving DecidableEq, Repr, Inhabited

namespace CharSet

/-- The largest code point. -/
def maxCode : Nat := 0x10FFFF

/-- The code point after `code`, the surrogate block left out. -/
def next (code : Nat) : Nat := if code = 0xD7FF then 0xE000 else code + 1

/-- The code point before `code`, the surrogate block left out. -/
def prev (code : Nat) : Nat := if code = 0xE000 then 0xD7FF else code - 1

/-- Whether `code` lies in one of the increasing ranges. -/
def inRanges : List (Nat × Nat) → Nat → Bool
  | [], _ => false
  | (lo, hi) :: rest, code =>
    if code < lo then false else if code ≤ hi then true else inRanges rest code

/-- Whether `c` is a member. -/
def contains (s : CharSet) (c : Char) : Bool := inRanges s.ranges c.toNat

/-- Adds the code points `lo` to `hi`, merging the ranges that touch them. -/
def insertInto (lo hi : Nat) : List (Nat × Nat) → List (Nat × Nat)
  | [] => [(lo, hi)]
  | (a, b) :: rest =>
    if next hi < a then (lo, hi) :: (a, b) :: rest
    else if next b < lo then (a, b) :: insertInto lo hi rest
    else insertInto (min a lo) (max b hi) rest

/-- The set without members. -/
def empty : CharSet := ⟨[]⟩

/-- The set of all characters. -/
def all : CharSet := ⟨[(0, maxCode)]⟩

/-- The set with the code points `lo` to `hi` added. -/
def insertRange (s : CharSet) (lo hi : Nat) : CharSet := ⟨insertInto lo hi s.ranges⟩

/-- The members of the given ranges, which may come in any order and overlap. -/
def ofRanges (ranges : List (Nat × Nat)) : CharSet :=
  ranges.foldl (fun s r => s.insertRange r.1 r.2) empty

/-- The set of the single character `c`. -/
def singleton (c : Char) : CharSet := ⟨[(c.toNat, c.toNat)]⟩

/-- The characters of `s` or of `t`. -/
def union (s t : CharSet) : CharSet :=
  t.ranges.foldl (fun u r => u.insertRange r.1 r.2) s

/-- The gaps that increasing ranges leave from `start` on. -/
def gaps (start : Nat) : List (Nat × Nat) → List (Nat × Nat)
  | [] => if start ≤ maxCode then [(start, maxCode)] else []
  | (a, b) :: rest =>
    if start < a then (start, prev a) :: gaps (next b) rest else gaps (next b) rest

/-- The characters that are not in `s`. -/
def complement (s : CharSet) : CharSet := ⟨gaps 0 s.ranges⟩

/-- The characters of both sets. -/
def inter (s t : CharSet) : CharSet := (s.complement.union t.complement).complement

/-- The characters of `s` that are not in `t`. -/
def diff (s t : CharSet) : CharSet := s.inter t.complement

/-- The characters of exactly one of the sets. -/
def symmDiff (s t : CharSet) : CharSet := (s.diff t).union (t.diff s)

/-- Whether the set has no member. -/
def isEmpty (s : CharSet) : Bool := s.ranges.isEmpty

/-- The member of a set that has exactly one. -/
def single? (s : CharSet) : Option Char :=
  match s.ranges with
  | [(a, b)] => if a = b then some (Char.ofNat a) else none
  | _ => none

/-- The largest code point of the set. -/
def last? (s : CharSet) : Option Nat := s.ranges.getLast?.map Prod.snd

end CharSet

end ContainerLint
