import ContainerLint.Pattern.Search
import ContainerLint.Proofs.Pattern.Places
import Mathlib.Data.List.ProdSigma

/-!
# Following threads with a memory

`Program.Explores` says what following the threads of a stack with a memory comes to, whatever the
number of rounds: a thread whose point was followed before is passed over. `Program.explore` does
so (`explores_explore`), since each of its rounds takes a thread away or notes a new point. If
something comes of it, there is a path to it (`Explores.exists_leads`).
-/

namespace ContainerLint.Pattern

namespace Visited

theorem getD_rows_insert (v : Visited) (i a row : Nat) :
    (v.insert i a).rows.getD row 0 =
      if i - v.origin = row then v.rows.getD row 0 ||| 1 <<< a else v.rows.getD row 0 := by
  -- Rows that are not there yet stand for nothing followed, like the new ones.
  have hgrown : ∀ m, (v.rows ++ Array.replicate m 0).getD row 0 = v.rows.getD row 0 := by
    intro m
    simp only [Array.getD_eq_getD_getElem?, Array.getElem?_append]
    split
    · rfl
    · rename_i hlt
      rw [Array.getElem?_eq_none (Nat.le_of_not_lt hlt), Array.getElem?_replicate]
      split <;> rfl
  have hmodify : ∀ rows : Array Nat, i - v.origin < rows.size →
      rows.getD row 0 = v.rows.getD row 0 →
      (rows.modify (i - v.origin) (· ||| 1 <<< a)).getD row 0 =
        if i - v.origin = row then v.rows.getD row 0 ||| 1 <<< a else v.rows.getD row 0 := by
    intro rows hlt hrows
    rw [← hrows]
    simp only [Array.getD_eq_getD_getElem?, Array.getElem?_modify]
    split
    · rename_i hrow
      subst hrow
      simp [Array.getElem?_eq_getElem hlt]
    · rfl
  simp only [insert]
  split
  · rename_i hlt
    exact hmodify v.rows hlt rfl
  · exact hmodify _ (by simp only [Array.size_append, Array.size_replicate]; omega) (hgrown _)

/-- What was followed after something was noted: this, and what was followed before. -/
theorem contains_insert (v : Visited) {i j : Nat} (hi : v.origin ≤ i) (hj : v.origin ≤ j)
    (a b : Nat) :
    (v.insert i a).contains j b = true ↔ (i = j ∧ a = b) ∨ v.contains j b = true := by
  have horigin : (v.insert i a).origin = v.origin := rfl
  have hrow : i - v.origin = j - v.origin ↔ i = j := by omega
  simp only [contains, horigin, getD_rows_insert, hrow]
  split
  · rename_i hij
    simp only [Nat.testBit_or, Nat.shiftLeft_eq, Nat.one_mul, Nat.testBit_two_pow,
      Bool.or_eq_true, decide_eq_true_eq, hij, true_and]
    exact or_comm
  · rename_i hij
    simp [hij]

/-- Places count from the place where following began. -/
theorem origin_le_index (v : Visited) {k l : Cursor} (horigin : v.origin = k.index)
    (hl : l ∈ k.onward) : v.origin ≤ l.index :=
  horigin ▸ (Cursor.index_of_mem_onward hl).1

theorem not_contains_none (origin i a : Nat) : (none origin).contains i a = false := by
  simp [contains, none]

end Visited

namespace Program

variable {p : Program} {k : Cursor} {v w : Visited} {t : Thread} {stack : List Thread}
  {result : Option Slots}

/-! ## Going on -/

/-- A thread goes on to at most two. -/
theorem length_advance_le (t : Thread) (i : Instruction) : (advance t i).length ≤ 2 := by
  cases i with
  | char c | set chars =>
      simp only [advance]
      cases t.place.rest with
      | nil => simp
      | cons d rest =>
          simp only
          split <;> simp
  | look l =>
      simp only [advance]
      split <;> simp
  | save | split | jump | accept => simp [advance]

/-- A thread goes on in its text. -/
theorem place_mem_onward_of_advance {s : Thread} {i : Instruction} (h : s ∈ advance t i) :
    s.place ∈ t.place.onward := by
  cases i with
  | char c | set chars =>
      simp only [advance] at h
      split at h
      · simp at h
      · rename_i d rest hrest
        split at h
        · rw [List.mem_singleton.mp h]
          exact Cursor.past_mem_onward hrest
        · simp at h
  | look l =>
      simp only [advance] at h
      split at h
      · rw [List.mem_singleton.mp h]
        exact Cursor.self_mem_onward _
      · simp at h
  | save | jump =>
      rw [advance, List.mem_singleton] at h
      rw [h]
      exact Cursor.self_mem_onward _
  | split first second =>
      simp only [advance, List.mem_cons, List.not_mem_nil, or_false] at h
      rcases h with rfl | rfl <;> exact Cursor.self_mem_onward _
  | accept => simp [advance] at h

/-- Threads at `k` or later are still at `k` or later when the first of them has gone on. -/
theorem forall_place_mem_onward {i : Instruction} (h : ∀ s ∈ t :: stack, s.place ∈ k.onward) :
    ∀ s ∈ advance t i ++ stack, s.place ∈ k.onward := by
  have hall := List.forall_mem_cons.mp h
  refine List.forall_mem_append.mpr ⟨fun s hs => ?_, hall.2⟩
  exact Cursor.mem_onward_trans hall.1 (place_mem_onward_of_advance hs)

/-- One thread comes to be the other in a number of steps. -/
inductive Leads (p : Program) : Nat → Thread → Thread → Prop
  | refl {t : Thread} : Leads p 0 t t
  | step {n : Nat} {r s t : Thread} {i : Instruction} (hi : p.instructions[r.address]? = some i)
      (hs : s ∈ advance r i) (hrest : Leads p n s t) : Leads p (n + 1) r t

/-! ## What is left to follow -/

/-- The points from `k` on. -/
def points (p : Program) (k : Cursor) : List (Cursor × Nat) :=
  k.onward ×ˢ List.range p.instructions.size

/-- The number of points from `k` on that were not followed yet. -/
def unvisited (p : Program) (k : Cursor) (v : Visited) : Nat :=
  (p.points k).countP fun point => !v.contains point.1.index point.2

theorem unvisited_le (p : Program) (k : Cursor) (v : Visited) :
    p.unvisited k v ≤ (k.rest.length + 1) * p.instructions.size := by
  refine Nat.le_trans List.countP_le_length (Nat.le_of_eq ?_)
  rw [points, List.length_product, Cursor.length_onward, List.length_range]

/-- Noting a new point leaves fewer that were not followed. -/
theorem unvisited_insert_lt {v : Visited} {l : Cursor} {a : Nat} (horigin : v.origin = k.index)
    (hl : l ∈ k.onward) (ha : a < p.instructions.size) (hnew : v.contains l.index a = false) :
    p.unvisited k (v.insert l.index a) < p.unvisited k v := by
  have hle := fun l => v.origin_le_index (l := l) horigin
  have hmem : (l, a) ∈ p.points k := List.mem_product.mpr ⟨hl, List.mem_range.mpr ha⟩
  have hfilter : (p.points k).filter (fun point =>
        !(v.insert l.index a).contains point.1.index point.2) =
      ((p.points k).filter fun point => !v.contains point.1.index point.2).filter fun point =>
        !(v.insert l.index a).contains point.1.index point.2 := by
    rw [List.filter_filter]
    refine List.filter_congr fun point hpoint => ?_
    have hplace := hle point.1 (List.mem_product.mp hpoint).1
    have himp := (v.contains_insert (hle l hl) hplace a point.2).mpr
    cases hcontains : v.contains point.1.index point.2 with
    | false => simp
    | true => simp [himp (.inr hcontains)]
  rw [unvisited, unvisited, List.countP_eq_length_filter, List.countP_eq_length_filter, hfilter]
  refine List.length_filter_lt_length_iff_exists.mpr
    ⟨(l, a), List.mem_filter.mpr ⟨hmem, by simp [hnew]⟩, ?_⟩
  have hnow := (v.contains_insert (hle l hl) (hle l hl) a a).mpr (.inl ⟨rfl, rfl⟩)
  simp [hnow]

/-! ## Following -/

/-- What comes of following the threads of a stack, and what was followed then. -/
inductive Explores (p : Program) : Visited → List Thread → Option Slots → Visited → Prop
  | nil {v : Visited} : Explores p v [] none v
  | seen {v w : Visited} {t : Thread} {stack : List Thread} {result : Option Slots}
      (hseen : v.contains t.place.index t.address = true) (hrest : Explores p v stack result w) :
      Explores p v (t :: stack) result w
  | missing {v w : Visited} {t : Thread} {stack : List Thread} {result : Option Slots}
      (hnew : v.contains t.place.index t.address = false)
      (hmissing : p.instructions[t.address]? = none) (hrest : Explores p v stack result w) :
      Explores p v (t :: stack) result w
  | accept {v : Visited} {t : Thread} {stack : List Thread}
      (hnew : v.contains t.place.index t.address = false)
      (haccept : p.instructions[t.address]? = some .accept) :
      Explores p v (t :: stack) (some t.slots) v
  | step {v w : Visited} {t : Thread} {stack : List Thread} {result : Option Slots}
      {i : Instruction} (hnew : v.contains t.place.index t.address = false)
      (hi : p.instructions[t.address]? = some i) (hnot : i ≠ .accept)
      (hrest : Explores p (v.insert t.place.index t.address) (advance t i ++ stack) result w) :
      Explores p v (t :: stack) result w

theorem Explores.origin (h : p.Explores v stack result w) : w.origin = v.origin := by
  induction h with
  | nil | accept => rfl
  | seen _ _ ih | missing _ _ _ ih => exact ih
  | step _ _ _ _ ih => exact ih

/-- There are rounds enough if there are more than threads, and two for each point that was not
followed yet. -/
theorem explores_explore (fuel : Nat) (horigin : v.origin = k.index)
    (hplaces : ∀ t ∈ stack, t.place ∈ k.onward)
    (hfuel : stack.length + 2 * p.unvisited k v < fuel) :
    p.Explores v stack (p.explore fuel stack v).1 (p.explore fuel stack v).2 := by
  induction fuel generalizing stack v with
  | zero => omega
  | succ fuel ih =>
      cases stack with
      | nil => exact .nil
      | cons t stack =>
          obtain ⟨hplace, hrest⟩ := List.forall_mem_cons.mp hplaces
          rw [List.length_cons] at hfuel
          simp only [explore]
          cases hcontains : v.contains t.place.index t.address with
          | true => exact .seen hcontains (ih horigin hrest (by omega))
          | false =>
              cases hi : p.instructions[t.address]? with
              | none => exact .missing hcontains hi (ih horigin hrest (by omega))
              | some i =>
                  have hlt : t.address < p.instructions.size :=
                    (Array.getElem?_eq_some_iff.mp hi).1
                  -- At most two threads come for one point that is noted now.
                  have hfewer := unvisited_insert_lt horigin hplace hlt hcontains
                  have htwo := length_advance_le t i
                  have hmore := ih (v := v.insert t.place.index t.address) horigin
                    (forall_place_mem_onward (i := i) hplaces) (by rw [List.length_append]; omega)
                  cases i with
                  | accept => exact .accept hcontains hi
                  | char | set | look | save | split | jump =>
                      exact .step hcontains hi (by simp) hmore

/-- What comes of a stack was saved on a path from one of its threads. -/
theorem Explores.exists_leads {slots : Slots} (h : p.Explores v stack (some slots) w) :
    ∃ s ∈ stack, ∃ n t, p.Leads n s t ∧ p.instructions[t.address]? = some .accept ∧
      t.slots = slots := by
  generalize hsome : some slots = result at h
  induction h with
  | nil => cases hsome
  | seen hseen hrest ih | missing hnew hmissing hrest ih =>
      obtain ⟨s, hs, hpath⟩ := ih hsome
      exact ⟨s, List.mem_cons_of_mem _ hs, hpath⟩
  | @accept v t stack hnew haccept =>
      exact ⟨t, List.mem_cons_self, 0, t, .refl, haccept, (Option.some.inj hsome).symm⟩
  | @step v w t stack result i hnew hi hnot hrest ih =>
      obtain ⟨s, hs, n, u, hleads, hpath⟩ := ih hsome
      rcases List.mem_append.mp hs with hs | hs
      · exact ⟨t, List.mem_cons_self, n + 1, u, .step hi hs hleads, hpath⟩
      · exact ⟨s, List.mem_cons_of_mem _ hs, n, u, hleads, hpath⟩

end Program

end ContainerLint.Pattern
