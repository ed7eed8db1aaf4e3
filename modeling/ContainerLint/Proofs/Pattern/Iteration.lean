import ContainerLint.Proofs.Pattern.Spans
import Mathlib.Data.List.Chain
import Mathlib.Data.List.Perm.Subperm

/-!
# One match after the other

`Program.Iterates` says what the matches of a text are, without a bound on their number: each
starts at the first place from which something comes, not before the end of the one before, where
an empty match right at that end does not count. Each match starts later than the one before
(`index_lt_of_next?`), so the bound of `slotsFrom` is never reached (`iterates_slotsFrom`). The
matches are disjoint and come in order (`exists_ends_of_iterates`), and there is at most one more
than characters (`length_le_of_isChain`).
-/

namespace ContainerLint.Pattern

variable {n : Node} {slots : Slots} {k l m stop : Cursor} {last : Option Nat} {length : Nat}

/-- The match is empty and lies where the match before ended. -/
def Slots.repeats (slots : Slots) (last : Option Nat) : Bool :=
  match slots.place? 0, slots.place? 1 with
  | some k, some l => k.index = l.index && last = some l.index
  | _, _ => false

namespace Program

/-- What comes of a place after a match that ended at `last`, where an empty match does not
count. -/
def next? (p : Program) (length : Nat) (last : Option Nat) (l : Cursor) : Option Slots :=
  (p.first? length l).filter fun slots => !slots.repeats last

/-- The matches at or after a place, from left to right, to the last one. Each is looked for from
the end of the one before, and comes of the first place from which something comes that counts. -/
inductive Iterates (p : Program) (length : Nat) : Cursor → Option Nat → List Slots → Prop
  | done {k : Cursor} {last : Option Nat}
      (hnone : k.onward.findSome? (p.next? length last) = none) : Iterates p length k last []
  | next {k stop : Cursor} {last : Option Nat} {slots : Slots} {found : List Slots}
      (hnext : k.onward.findSome? (p.next? length last) = some slots)
      (hstop : slots.place? 1 = some stop)
      (hrest : Iterates p length stop (some stop.index) found) :
      Iterates p length k last (slots :: found)

end Program

/-- A search goes on with the places after the first one. -/
theorem Program.exists_later {p : Program} (hlength : k.rest.length ≤ length) :
    ∃ later, k.onward = k :: later ∧ (∀ l ∈ later, l ∈ k.onward ∧ k.index < l.index) ∧
      k.next?.bind (p.search length) = later.findSome? (p.first? length) := by
  cases hrest : k.rest with
  | nil => exact ⟨[], Cursor.onward_nil hrest, by simp, by simp [Cursor.next?, hrest]⟩
  | cons c rest =>
      have honward := Cursor.onward_cons hrest
      refine ⟨(k.past c rest).onward, honward, fun l hl => ⟨?_, ?_⟩, ?_⟩
      · exact honward ▸ List.mem_cons_of_mem _ hl
      · exact (Cursor.index_of_mem_onward hl).1
      · rw [hrest, List.length_cons] at hlength
        simp only [Cursor.next?, hrest, Option.bind_some]
        exact search_eq_findSome? (Nat.le_of_succ_le hlength)

theorem Slots.Spans.repeats_iff (h : slots.Spans l stop) :
    slots.repeats last = true ↔ stop = l ∧ last = some l.index := by
  simp only [repeats, h.place?_start, h.place?_stop, Bool.and_eq_true, decide_eq_true_eq]
  constructor
  · rintro ⟨hindex, hlast⟩
    exact ⟨Cursor.eq_of_index h.onward l.self_mem_onward hindex.symm, hindex ▸ hlast⟩
  · rintro ⟨rfl, hlast⟩
    exact ⟨rfl, hlast⟩

theorem Slots.Spans.repeats_eq_false (h : slots.Spans l stop) (hlast : last ≠ some l.index) :
    slots.repeats last = false :=
  Bool.eq_false_iff.mpr fun hrepeats => hlast (h.repeats_iff.mp hrepeats).2

/-- The ends of one match and those of a later one: it starts later, and not before the end. -/
def Before (s t : Cursor × Cursor) : Prop :=
  t.1 ∈ s.2.onward ∧ t.1 ∈ s.1.onward ∧ s.1.index < t.1.index

/-- There is at most one match more than characters, since no two start at one place. -/
theorem length_le_of_isChain {ends : List (Cursor × Cursor)}
    (hplaces : ∀ e ∈ ends, e.1 ∈ k.onward)
    (hchain : ends.IsChain Before) : ends.length ≤ k.rest.length + 1 := by
  have hindices : (ends.map fun e => e.1.index).IsChain (· < ·) :=
    (List.isChain_map _).mpr (hchain.imp fun _ _ h => h.2.2)
  have hnodup : (ends.map fun e => e.1.index).Nodup :=
    hindices.pairwise.imp fun h => Nat.ne_of_lt h
  have hsubset : (ends.map fun e => e.1.index) ⊆ k.onward.map Cursor.index := by
    intro i hi
    obtain ⟨e, he, rfl⟩ := List.mem_map.mp hi
    exact List.mem_map_of_mem (hplaces e he)
  have hlength := (List.Nodup.subperm hnodup hsubset).length_le
  rwa [List.length_map, List.length_map, Cursor.length_onward] at hlength

namespace Node

open Program

/-- A match that counts starts where it was looked for. -/
theorem spans_of_next? (hnumbered : 0 ∉ n.groups) (hlength : l.rest.length ≤ length)
    (h : n.program.next? length last l = some slots) :
    n.program.first? length l = some slots ∧ slots.repeats last = false ∧
      ∃ stop, slots.Spans l stop := by
  obtain ⟨hfirst, hnot⟩ := Option.filter_eq_some_iff.mp h
  exact ⟨hfirst, by simpa using hnot, n.spans_of_first? hnumbered hlength hfirst⟩

/-- Away from the end of the match before all that comes of a place counts. -/
theorem next?_eq_first? (hnumbered : 0 ∉ n.groups) (hlength : l.rest.length ≤ length)
    (hlast : last ≠ some l.index) :
    n.program.next? length last l = n.program.first? length l := by
  rw [next?]
  cases hslots : n.program.first? length l with
  | none => rfl
  | some slots =>
      obtain ⟨stop, hspans⟩ := n.spans_of_first? hnumbered hlength hslots
      simp [Option.filter, hspans.repeats_eq_false hlast]

theorem nextSlots_of_spans {p : Program} (hsearch : p.search length k = some slots)
    (hspans : slots.Spans l stop) :
    nextSlots p length k last =
      if slots.repeats last then k.next?.bind (p.search length) else some slots := by
  simp only [nextSlots, hsearch, hspans.place?_start, hspans.place?_stop, Slots.repeats,
    Bool.and_eq_true, decide_eq_true_eq]

/-- The next match is what comes of the first place from which something comes that counts. -/
theorem nextSlots_eq (hnumbered : 0 ∉ n.groups) (hlength : k.rest.length ≤ length)
    (hlast : last = none ∨ last = some k.index) :
    nextSlots n.program length k last = k.onward.findSome? (n.program.next? length last) := by
  obtain ⟨later, honward, hlater, hsearch⟩ := exists_later (p := n.program) hlength
  have hne : ∀ l ∈ later, last ≠ some l.index := by
    intro l hl heq
    have hlt := (hlater l hl).2
    rcases hlast with rfl | rfl
    · cases heq
    · rw [Option.some.inj heq] at hlt
      exact Nat.lt_irrefl _ hlt
  have hshort : ∀ l ∈ later, l.rest.length ≤ length := fun l hl =>
    Nat.le_trans (Cursor.rest_length_le (hlater l hl).1) hlength
  have hcount : later.findSome? (n.program.next? length last) =
      later.findSome? (n.program.first? length) := by
    rw [← List.head?_filterMap, ← List.head?_filterMap]
    refine congrArg List.head? (List.filterMap_congr fun l hl => ?_)
    exact next?_eq_first? hnumbered (hshort l hl) (hne l hl)
  have hhere := search_eq_findSome? (p := n.program) hlength
  rw [honward, List.findSome?_cons] at hhere ⊢
  cases hfirst : n.program.first? length k with
  | none =>
      rw [hfirst] at hhere
      rw [next?, hfirst, Option.filter_none]
      simp only at hhere ⊢
      rw [hcount]
      cases hfound : later.findSome? (n.program.first? length) with
      | none => rw [nextSlots, hhere, hfound]
      | some slots =>
          obtain ⟨l, hl, hslots⟩ := List.exists_of_findSome?_eq_some hfound
          obtain ⟨stop, hspans⟩ := n.spans_of_first? hnumbered (hshort l hl) hslots
          rw [nextSlots_of_spans (hhere.trans hfound) hspans,
            hspans.repeats_eq_false (hne l hl)]
          rfl
  | some slots =>
      rw [hfirst] at hhere
      obtain ⟨stop, hspans⟩ := n.spans_of_first? hnumbered hlength hfirst
      rw [nextSlots_of_spans hhere hspans, next?, hfirst, hsearch, ← hcount]
      cases hrepeats : slots.repeats last <;> simp [Option.filter, hrepeats]

/-- After a match the next one starts later. -/
theorem index_lt_of_next? (hnumbered : 0 ∉ n.groups) (hlength : l.rest.length ≤ length)
    (h : n.program.next? length last l = some slots) (hspans : slots.Spans l stop)
    (hm : m ∈ stop.onward) (hnext : (n.program.next? length (some stop.index) m).isSome) :
    l.index < m.index := by
  obtain ⟨hfirst, -, -⟩ := spans_of_next? hnumbered hlength h
  have hstop := (Cursor.index_of_mem_onward hspans.onward).1
  have hlater := (Cursor.index_of_mem_onward hm).1
  refine Nat.lt_of_le_of_ne (Nat.le_trans hstop hlater) fun hindex => ?_
  -- Otherwise the match is empty, and the same comes of the place again.
  have hmem := Cursor.mem_onward_trans hspans.onward hm
  obtain rfl := Cursor.eq_of_index l.self_mem_onward hmem hindex
  obtain rfl : stop = l := Cursor.eq_of_index hspans.onward l.self_mem_onward (by omega)
  rw [next?, hfirst] at hnext
  have hrepeats : slots.repeats (some stop.index) = true := hspans.repeats_iff.mpr ⟨rfl, rfl⟩
  simp [Option.filter, hrepeats] at hnext

/-- There are fewer matches than the bound that is set: each but the first starts after the one
before. -/
theorem iterates_slotsFrom (hnumbered : 0 ∉ n.groups) (hlength : k.rest.length ≤ length)
    (hlast : last = none ∨ last = some k.index) (fuel : Nat)
    (hfuel : ∀ l ∈ k.onward, (n.program.next? length last l).isSome → l.rest.length < fuel) :
    n.program.Iterates length k last (slotsFrom n.program length (fuel + 1) k last) := by
  induction fuel generalizing k last with
  | zero =>
      have hnone : k.onward.findSome? (n.program.next? length last) = none := by
        refine List.findSome?_eq_none_iff.mpr fun l hl => ?_
        exact Option.not_isSome_iff_eq_none.mp fun h => Nat.not_lt_zero _ (hfuel l hl h)
      rw [slotsFrom, nextSlots_eq hnumbered hlength hlast, hnone]
      exact .done hnone
  | succ fuel ih =>
      rw [slotsFrom, nextSlots_eq hnumbered hlength hlast]
      cases hnext : k.onward.findSome? (n.program.next? length last) with
      | none => exact .done hnext
      | some slots =>
          obtain ⟨l, hl, hslots⟩ := List.exists_of_findSome?_eq_some hnext
          have hshort : l.rest.length ≤ length := Nat.le_trans (Cursor.rest_length_le hl) hlength
          obtain ⟨-, -, stop, hspans⟩ := spans_of_next? hnumbered hshort hslots
          have hstop := hspans.onward
          have hfirst := hfuel l hl (by rw [hslots]; rfl)
          simp only [hspans.place?_stop]
          refine .next hnext hspans.place?_stop
            (ih (Nat.le_trans (Cursor.rest_length_le hstop) hshort) (.inr rfl)
              fun m hm hmore => ?_)
          have hlt := index_lt_of_next? hnumbered hshort hslots hspans hm hmore
          have hsum := (Cursor.index_of_mem_onward (Cursor.mem_onward_trans hstop hm)).2
          omega

/-- The matches are disjoint and come in order. -/
theorem exists_ends_of_iterates (hnumbered : 0 ∉ n.groups) (hlength : k.rest.length ≤ length)
    {found : List Slots} (h : n.program.Iterates length k last found) :
    ∃ ends : List (Cursor × Cursor),
      List.Forall₂ (fun e slots => slots.Spans e.1 e.2) ends found ∧
      (∀ e ∈ ends, e.1 ∈ k.onward ∧ e.2 ∈ e.1.onward) ∧ ends.IsChain Before ∧
      ∀ e ∈ ends.head?, (n.program.next? length last e.1).isSome := by
  induction h with
  | done => exact ⟨[], .nil, by simp, .nil, by simp⟩
  | @next k stop last slots found hnext hstop hrest ih =>
      obtain ⟨l, hl, hslots⟩ := List.exists_of_findSome?_eq_some hnext
      have hshort : l.rest.length ≤ length := Nat.le_trans (Cursor.rest_length_le hl) hlength
      obtain ⟨-, -, end', hspans⟩ := spans_of_next? hnumbered hshort hslots
      cases hspans.place?_stop.symm.trans hstop
      obtain ⟨ends, hfound, hplaces, hchain, hhead⟩ :=
        ih (Nat.le_trans (Cursor.rest_length_le hspans.onward) hshort)
      have hlater := Cursor.mem_onward_trans hl hspans.onward
      have hhere := hspans.onward
      refine ⟨(l, stop) :: ends, .cons hspans hfound,
        List.forall_mem_cons.mpr ⟨⟨hl, hhere⟩, fun e he => ?_⟩,
        List.isChain_cons.mpr ⟨fun e he => ?_, hchain⟩, ?_⟩
      · exact ⟨Cursor.mem_onward_trans hlater (hplaces e he).1, (hplaces e he).2⟩
      · have hmem := (hplaces e (List.mem_of_mem_head? he)).1
        exact ⟨hmem, Cursor.mem_onward_trans hhere hmem,
          index_lt_of_next? hnumbered hshort hslots hspans hmem (hhead e he)⟩
      · intro e he
        cases he
        rw [hslots]
        rfl

/-- The matches of a text are what comes of its places, one after the other. -/
theorem iterates_all (hnumbered : 0 ∉ n.groups) (captures : Nat) (text : String) :
    ∃ found : List Slots,
      Pattern.all ⟨n.program, captures⟩ text = found.map (·.toMatch captures) ∧
      n.program.Iterates text.length (.start text.toList) none found := by
  have hshort : (Cursor.start text.toList).rest.length ≤ text.length :=
    Nat.le_of_eq String.length_toList
  refine ⟨_, ?_, n.iterates_slotsFrom hnumbered hshort (.inl rfl) (text.length + 1) fun l hl _ =>
    Nat.lt_succ_of_le (Nat.le_trans (Cursor.rest_length_le hl) hshort)⟩
  simp only [Pattern.all, String.length_toList]

/-- Every match comes of a place. -/
theorem exists_first?_of_iterates (hnumbered : 0 ∉ n.groups) (hlength : k.rest.length ≤ length)
    {found : List Slots} (h : n.program.Iterates length k last found) :
    ∀ slots ∈ found, ∃ l : Cursor, l.rest.length ≤ length ∧
      n.program.first? length l = some slots := by
  induction h with
  | done => simp
  | @next k stop last slots found hnext hstop hrest ih =>
      obtain ⟨l, hl, hslots⟩ := List.exists_of_findSome?_eq_some hnext
      have hshort : l.rest.length ≤ length := Nat.le_trans (Cursor.rest_length_le hl) hlength
      obtain ⟨hfirst, -, stop', hspans⟩ := spans_of_next? hnumbered hshort hslots
      cases hspans.place?_stop.symm.trans hstop
      exact List.forall_mem_cons.mpr ⟨⟨l, hshort, hfirst⟩,
        ih (Nat.le_trans (Cursor.rest_length_le hspans.onward) hshort)⟩

theorem exists_first?_of_mem_all (hnumbered : 0 ∉ n.groups) {captures : Nat} {text : String}
    {found : Match} (h : found ∈ Pattern.all ⟨n.program, captures⟩ text) :
    ∃ slots : Slots, slots.toMatch captures = found ∧ ∃ l : Cursor, l.rest.length ≤ text.length ∧
      n.program.first? text.length l = some slots := by
  obtain ⟨all, hall, hiterates⟩ := n.iterates_all hnumbered captures text
  rw [hall] at h
  obtain ⟨slots, hslots, hmatch⟩ := List.mem_map.mp h
  exact ⟨slots, hmatch,
    exists_first?_of_iterates hnumbered (Nat.le_of_eq String.length_toList) hiterates
      slots hslots⟩

/-- From some place of the text a way leads through the node. -/
def OccursIn (n : Node) (text : List Char) : Prop :=
  ∃ k ∈ (Cursor.start text).onward, (capture 0 n).ways ⟨k, []⟩ ≠ []

/-- A text has a match exactly if a way leads through the node from one of its places. -/
theorem all_ne_nil_iff (hnumbered : 0 ∉ n.groups) (hproductive : n.productive = true)
    (captures : Nat) (text : String) :
    Pattern.all ⟨n.program, captures⟩ text ≠ [] ↔ n.OccursIn text.toList := by
  obtain ⟨found, hall, hiterates⟩ := n.iterates_all hnumbered captures text
  have hshort : (Cursor.start text.toList).rest.length ≤ text.length :=
    Nat.le_of_eq String.length_toList
  have hnext : ∀ l ∈ (Cursor.start text.toList).onward,
      n.program.next? text.length none l = n.program.first? text.length l := fun l hl =>
    next?_eq_first? hnumbered (Nat.le_trans (Cursor.rest_length_le hl) hshort) (by simp)
  have hsome : found ≠ [] ↔
      ∃ l ∈ (Cursor.start text.toList).onward, (n.program.first? text.length l).isSome := by
    cases hiterates with
    | done hnone =>
        rw [List.findSome?_eq_none_iff] at hnone
        refine iff_of_false (by simp) ?_
        rintro ⟨l, hl, hfirst⟩
        rw [← hnext l hl, hnone l hl] at hfirst
        cases hfirst
    | next hfound _ _ =>
        obtain ⟨l, hl, hslots⟩ := List.exists_of_findSome?_eq_some hfound
        refine iff_of_true (by simp) ⟨l, hl, ?_⟩
        rw [← hnext l hl, hslots]
        rfl
  have hsearch := (search_eq_findSome? (p := n.program) hshort).symm.trans
    (n.search_program hproductive hshort)
  rw [hall, Ne, List.map_eq_nil_iff, ← Ne, hsome, ← List.findSome?_isSome_iff, hsearch,
    List.findSome?_isSome_iff]
  simp only [Option.isSome_map, List.isSome_head?, OccursIn]

end Node

end ContainerLint.Pattern
