import ContainerLint.Proofs.Pattern.Leftmost
import Mathlib.Data.List.Basic

/-!
# Following with a memory and without one

A thread that fails once fails always, and one that comes back to where it was waits for itself.
So following a stack with a memory (`Program.Explores`) comes to what following it without one
(`Program.Resolves`) comes to, if that ends (`Explores.resolves`), and a search gives what comes
of the first place from which something comes (`search_eq`).
-/

namespace ContainerLint.Pattern.Program

variable {p : Program} {k : Cursor} {v w : Visited} {n m : Nat} {t : Thread}
  {stack more : List Thread} {result other : Option Slots}

/-! ## What was followed -/

/-- Something comes of the thread only after something comes of the stack, and then the same. In
particular, if the stack is empty nothing comes of the thread. -/
def WaitsFor (p : Program) (t : Thread) (stack : List Thread) : Prop :=
  ∀ n result, p.Resolves n stack result →
    ∃ m other, n < m ∧ p.Resolves m [t] other ∧ other.isSome = result.isSome

/-- What was followed from `k` on has failed, or waits for the first threads of the stack. -/
def Remembers (p : Program) (k : Cursor) (v : Visited) (stack : List Thread) : Prop :=
  v.origin = k.index ∧ ∀ l ∈ k.onward, ∀ a, v.contains l.index a = true →
    ∃ first rest, stack = first ++ rest ∧ p.WaitsFor ⟨a, l, []⟩ first

/-- If following a stack ends, so does following the first threads of it. -/
theorem Resolves.first (stack : List Thread) (h : p.Resolves n (stack ++ more) result) :
    ∃ m other, p.Resolves m stack other := by
  rcases h.split stack with ⟨slots, -, hfirst⟩ | ⟨k, l, -, hfirst, -⟩
  · exact ⟨n, _, hfirst⟩
  · exact ⟨k, _, hfirst⟩

/-- A thread does not wait for itself if following it ends. -/
theorem WaitsFor.not_self {s : Thread} (h : p.WaitsFor s (t :: stack))
    (hpoint : point s = point t)
    (ht : p.Resolves n (t :: (stack ++ more)) result) : False := by
  obtain ⟨m, other, hfirst⟩ := Resolves.first (t :: stack) ht
  obtain ⟨longer, same, hlt, hs, -⟩ := h m other hfirst
  obtain ⟨again, hagain, -⟩ := hs.blind [t] (by simp [hpoint])
  -- The stack is followed for at least as long as its first thread.
  rcases hfirst.split [t] with ⟨slots, -, hone⟩ | ⟨i, j, hsum, hone, -⟩
  · have heq := (hone.unique hagain).1
    omega
  · have heq := (hone.unique hagain).1
    omega

/-- When the first thread of a stack has failed, what waited for it waits for the next ones. -/
theorem Remembers.drop {v : Visited} (h : p.Remembers k v (t :: stack))
    (hfailed : p.Resolves n [t] none) : p.Remembers k v stack := by
  refine ⟨h.1, fun l hl a ha => ?_⟩
  obtain ⟨first, rest, hstack, hwaits⟩ := h.2 l hl a ha
  cases first with
  | nil => exact ⟨[], stack, rfl, hwaits⟩
  | cons s first =>
      rw [List.cons_append, List.cons.injEq] at hstack
      obtain ⟨rfl, rfl⟩ := hstack
      refine ⟨first, rest, rfl, fun m other hfirst => ?_⟩
      obtain ⟨i, same, hlt, hwaiting, hsome⟩ := hwaits _ other (hfailed.append hfirst)
      exact ⟨i, same, by omega, hwaiting, hsome⟩

/-- When a thread goes on, what waited for it waits for what it goes on to, and so does it. -/
theorem Remembers.step {v : Visited} {i : Instruction} (h : p.Remembers k v (t :: stack))
    (hplace : t.place ∈ k.onward) (hi : p.instructions[t.address]? = some i)
    (hnot : i ≠ .accept) :
    p.Remembers k (v.insert t.place.index t.address) (advance t i ++ stack) := by
  have hle := fun l => v.origin_le_index (l := l) h.1
  refine ⟨h.1, fun l hl a ha => ?_⟩
  rcases (v.contains_insert (hle _ hplace) (hle l hl) t.address a).mp ha with ⟨hindex, rfl⟩ | ha
  · obtain rfl := Cursor.eq_of_index hplace hl hindex
    refine ⟨advance t i, stack, rfl, fun m other hadvance => ?_⟩
    have ht : p.Resolves (m + 1) [t] other := .step hi hnot (by simpa using hadvance)
    obtain ⟨same, hsame, hsome⟩ := ht.blind [⟨t.address, t.place, []⟩] rfl
    exact ⟨m + 1, same, Nat.lt_succ_self m, hsame, hsome⟩
  · obtain ⟨first, rest, hstack, hwaits⟩ := h.2 l hl a ha
    cases first with
    | nil => exact ⟨[], _, rfl, hwaits⟩
    | cons s first =>
        rw [List.cons_append, List.cons.injEq] at hstack
        obtain ⟨rfl, rfl⟩ := hstack
        refine ⟨advance t i ++ first, rest, (List.append_assoc ..).symm, fun m other hfirst => ?_⟩
        obtain ⟨j, same, hlt, hwaiting, hsome⟩ := hwaits (m + 1) other (.step hi hnot hfirst)
        exact ⟨j, same, by omega, hwaiting, hsome⟩

/-- A thread at a point that was followed before fails. -/
theorem Remembers.failed {v : Visited} (h : p.Remembers k v (t :: stack))
    (hplace : t.place ∈ k.onward) (hcontains : v.contains t.place.index t.address = true)
    (hresolves : p.Resolves n (t :: stack) result) : ∃ m, p.Resolves m [t] none := by
  obtain ⟨first, rest, hstack, hwaits⟩ := h.2 _ hplace _ hcontains
  cases first with
  | nil =>
      obtain ⟨m, other, -, hfailed, hnone⟩ := hwaits 0 none .nil
      obtain ⟨again, hagain, hsome⟩ := hfailed.blind [t] rfl
      rw [hnone, Option.isSome_none, Option.isSome_eq_false_iff, Option.isNone_iff_eq_none]
        at hsome
      exact ⟨m, hsome ▸ hagain⟩
  | cons s first =>
      rw [List.cons_append, List.cons.injEq] at hstack
      obtain ⟨rfl, rfl⟩ := hstack
      exact (hwaits.not_self rfl hresolves).elim

/-! ## Following with a memory -/

/-- Following with a memory comes to what following without one comes to. -/
theorem Explores.resolves (h : p.Explores v stack result w)
    (hplaces : ∀ t ∈ stack, t.place ∈ k.onward) (hremembers : p.Remembers k v stack)
    (hresolves : p.Resolves n stack other) : result = other := by
  induction h generalizing n with
  | nil =>
      cases hresolves
      rfl
  | seen hseen hrest ih =>
      have hstack := List.forall_mem_cons.mp hplaces
      -- The thread was followed before and has failed, so it makes no difference.
      obtain ⟨m, hfailed⟩ := hremembers.failed hstack.1 hseen hresolves
      rcases hresolves.split [_] with ⟨slots, -, hsome⟩ | ⟨i, j, -, -, hresolves⟩
      · cases (hfailed.unique hsome).2
      · exact ih hstack.2 (hremembers.drop hfailed) hresolves
  | missing hnew hmissing hrest ih =>
      have hstack := List.forall_mem_cons.mp hplaces
      cases hresolves with
      | missing _ hresolves =>
          exact ih hstack.2 (hremembers.drop (.missing hmissing .nil)) hresolves
      | accept haccept => cases hmissing.symm.trans haccept
      | step hi => cases hmissing.symm.trans hi
  | accept hnew haccept =>
      cases hresolves with
      | missing hmissing => cases hmissing.symm.trans haccept
      | accept => rfl
      | step hi hnot => exact absurd (Option.some.inj (hi.symm.trans haccept)) hnot
  | step hnew hi hnot hrest ih =>
      have hstack := List.forall_mem_cons.mp hplaces
      cases hresolves with
      | missing hmissing => cases hmissing.symm.trans hi
      | accept haccept => exact absurd (Option.some.inj (hi.symm.trans haccept)) hnot
      | step hj _ hresolves =>
          cases hi.symm.trans hj
          exact ih (forall_place_mem_onward hplaces) (hremembers.step hstack.1 hi hnot) hresolves

/-! ## Searching -/

/-- What comes of a place, if following the program ends from it. -/
theorem first?_eq_of_resolves {length : Nat} {l : Cursor} (hlength : l.rest.length ≤ length)
    (h : p.Resolves n [⟨0, l, []⟩] result) : p.first? length l = result := by
  obtain ⟨w, hexplores⟩ := explores_first? (p := p) hlength
  refine hexplores.resolves (k := l) (by simpa using l.self_mem_onward)
    ⟨rfl, fun j _ a ha => ?_⟩ h
  rw [Visited.not_contains_none] at ha
  cases ha

/-- A search gives what comes of the first place at or after `k` from which something comes, if
following the program ends from every place. -/
theorem search_eq (first : Cursor → Option Slots) {length : Nat}
    (hlength : k.rest.length ≤ length)
    (hfirst : ∀ l ∈ k.onward, ∃ n, p.Resolves n [⟨0, l, []⟩] (first l)) :
    p.search length k = k.onward.findSome? first := by
  rw [search_eq_findSome? hlength, ← List.head?_filterMap, ← List.head?_filterMap]
  refine congrArg List.head? (List.filterMap_congr fun l hl => ?_)
  obtain ⟨n, hresolves⟩ := hfirst l hl
  exact first?_eq_of_resolves (Nat.le_trans (Cursor.rest_length_le hl) hlength) hresolves

end ContainerLint.Pattern.Program
