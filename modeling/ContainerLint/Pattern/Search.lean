import ContainerLint.Pattern.Cursor
import ContainerLint.Pattern.Program

/-!
# Searching

`Program.explore` follows the choices of a program in order of preference and ends at the first
way that accepts. It never follows an address at a place where it has been before: what did not
accept then cannot accept now, and a loop that took no text is left. So the work is bounded by the
number of addresses times the number of places. `Program.search` tries the places of the text
from left to right.
-/

namespace ContainerLint.Pattern

/-- The addresses that were followed at each place, as one number per place whose binary digits
tell the addresses. Places are counted from `origin`. -/
structure Visited where
  origin : Nat
  rows : Array Nat

namespace Visited

/-- Nothing followed yet. -/
def none (origin : Nat) : Visited := ⟨origin, #[]⟩

/-- Whether the address was followed at the place. -/
def contains (v : Visited) (index address : Nat) : Bool :=
  (v.rows.getD (index - v.origin) 0).testBit address

/-- Notes that the address is followed at the place. -/
def insert (v : Visited) (index address : Nat) : Visited :=
  let row := index - v.origin
  let rows :=
    if row < v.rows.size then v.rows
    else v.rows ++ Array.replicate (row + 1 - v.rows.size) 0
  ⟨v.origin, rows.modify row (· ||| 1 <<< address)⟩

end Visited

/-- The places that were saved, the latest first. -/
abbrev Slots := List (Nat × Cursor)

/-- The place last saved in a slot. -/
def Slots.place? (slots : Slots) (slot : Nat) : Option Cursor :=
  (slots.find? fun s => s.1 = slot).map Prod.snd

/-- A way that is still to be followed: an address, a place, and what was saved so far. -/
structure Thread where
  address : Nat
  place : Cursor
  slots : Slots

namespace Program

/-- The threads that continue a thread at an instruction, in order of preference; none when it
fails there. -/
def advance (t : Thread) : Instruction → List Thread
  | .char c =>
    match t.place.rest with
    | [] => []
    | d :: rest => if c = d then [⟨t.address + 1, t.place.past d rest, t.slots⟩] else []
  | .set chars =>
    match t.place.rest with
    | [] => []
    | d :: rest =>
      if chars.contains d then [⟨t.address + 1, t.place.past d rest, t.slots⟩] else []
  | .look l => if l.holds t.place then [⟨t.address + 1, t.place, t.slots⟩] else []
  | .save slot => [⟨t.address + 1, t.place, (slot, t.place) :: t.slots⟩]
  | .split first second => [⟨first, t.place, t.slots⟩, ⟨second, t.place, t.slots⟩]
  | .jump target => [⟨target, t.place, t.slots⟩]
  | .accept => []

/-- Follows the threads of the stack, the first one first, up to the first that accepts. Gives
what it saved, and all that was followed. -/
def explore (p : Program) : Nat → List Thread → Visited → Option Slots × Visited
  | 0, _, v => (none, v)
  | _ + 1, [], v => (none, v)
  | fuel + 1, t :: stack, v =>
    if v.contains t.place.index t.address then explore p fuel stack v
    else
      match p.instructions[t.address]? with
      | none => explore p fuel stack v
      | some .accept => (some t.slots, v)
      | some i => explore p fuel (advance t i ++ stack) (v.insert t.place.index t.address)

/-- Enough rounds to follow every address at every one of `places` places: each follows at most
two threads. -/
def rounds (p : Program) (places : Nat) : Nat := 2 * (p.instructions.size + 1) * (places + 1) + 2

/-- Tries the places from `k` on; `tries` bounds their number. -/
def searchFrom (p : Program) (rounds : Nat) : Nat → Cursor → Visited → Option Slots
  | 0, _, _ => none
  | tries + 1, k, v =>
    match p.explore rounds [⟨0, k, []⟩] v with
    | (some slots, _) => some slots
    | (none, v) =>
      match k.next? with
      | none => none
      | some k => searchFrom p rounds tries k v

/-- The leftmost match at or after `k`, by the preferences of the pattern. At most `length`
characters come after `k`. -/
def search (p : Program) (length : Nat) (k : Cursor) : Option Slots :=
  p.searchFrom (p.rounds length) (length + 1) k (.none k.index)

end Program

end ContainerLint.Pattern
