import ContainerLint.Pattern.Error
import ContainerLint.Pattern.Footprint
import ContainerLint.Pattern.Meaning
import ContainerLint.Pattern.Reader
import ContainerLint.Pattern.Search

/-!
# Matching

`Pattern.compile` makes a pattern ready for use and `Pattern.all` lists its matches in a text:
each search goes on where the match before ended, and an empty match right there is passed over.
-/

namespace ContainerLint

/-- The part of the text that a group holds, with the byte offsets of its ends. -/
structure Span where
  start : Nat
  stop : Nat
  text : String
deriving DecidableEq, Repr

/-- A match: the whole of it and then its groups; a group that took no part in it is absent. -/
structure Match where
  groups : List (Option Span)
deriving DecidableEq, Repr

/-- The text of a group. -/
def Match.text? (m : Match) (index : Nat) : Option String :=
  match m.groups[index]? with
  | some (some span) => some span.text
  | _ => none

/-- A pattern that is ready for use. -/
structure Pattern where
  program : Pattern.Program
  captures : Nat

namespace Pattern

/-- The span between the places saved for a group. -/
def Slots.span? (slots : Slots) (index : Nat) : Option Span :=
  match slots.place? (2 * index), slots.place? (2 * index + 1) with
  | some k, some l => some ⟨k.offset, l.offset, String.ofList (k.textTo l)⟩
  | _, _ => none

/-- The match that the saved places stand for. -/
def Slots.toMatch (slots : Slots) (captures : Nat) : Match :=
  ⟨(List.range (captures + 1)).map slots.span?⟩

/-- The search for the next match: at `k`, unless that gives an empty match at `last`, the end of
the match before; then one character on. -/
def nextSlots (p : Program) (length : Nat) (k : Cursor) (last : Option Nat) : Option Slots :=
  match p.search length k with
  | none => none
  | some slots =>
    match slots.place? 0, slots.place? 1 with
    | some a, some b =>
      if a.index = b.index ∧ last = some b.index then k.next?.bind (p.search length)
      else some slots
    | _, _ => none

/-- The matches at or after `k` in a text of `length` characters; `last` is the end of the match
before, and `fuel` bounds their number. -/
def slotsFrom (p : Program) (length : Nat) : Nat → Cursor → Option Nat → List Slots
  | 0, _, _ => []
  | fuel + 1, k, last =>
    match nextSlots p length k last with
    | none => []
    | some slots =>
      match slots.place? 1 with
      | none => []
      | some stop => slots :: slotsFrom p length fuel stop (some stop.index)

end Pattern

open Pattern in
/-- Makes a pattern ready for use. -/
def Pattern.compile (source : String) : Except Pattern.Fault Pattern :=
  match (do (← Ast.read source.toList).meaning : Except SyntaxFault Node) with
  | .error fault => .error (.badSyntax fault)
  | .ok node =>
    if node.footprint ≤ footprintLimit then .ok ⟨node.program, node.captures⟩
    else .error (.tooLarge footprintLimit)

/-- The matches of a pattern in a text, from left to right. -/
def Pattern.all (p : Pattern) (text : String) : List Match :=
  let chars := text.toList
  (Pattern.slotsFrom p.program chars.length (chars.length + 2) (.start chars) none).map
    (·.toMatch p.captures)

/-- The first match of a pattern in a text. -/
def Pattern.first? (p : Pattern) (text : String) : Option Match :=
  let chars := text.toList
  (p.program.search chars.length (.start chars)).map (·.toMatch p.captures)

end ContainerLint
