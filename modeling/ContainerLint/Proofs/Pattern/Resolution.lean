import ContainerLint.Pattern.Search

/-!
# Following threads without a memory

`Program.Resolves` says what comes of a stack of threads, if all that is followed is followed
again whenever a thread comes back to it, and in how many rounds. It is what a search is about;
`Program.explore` comes to the same result faster, because it remembers where it was. What comes
of a thread does not hang on what it saved (`Resolves.blind`), and the threads of a stack are
followed one after the other (`Resolves.split` and `Resolves.append`).
-/

namespace ContainerLint.Pattern.Program

/-- Following the threads of a stack ends after some rounds, with what the first thread that
accepts has saved, or with nothing. -/
inductive Resolves (p : Program) : Nat → List Thread → Option Slots → Prop
  | nil : Resolves p 0 [] none
  | missing {n : Nat} {t : Thread} {stack : List Thread} {result : Option Slots}
      (hmissing : p.instructions[t.address]? = none) (hrest : Resolves p n stack result) :
      Resolves p (n + 1) (t :: stack) result
  | accept {t : Thread} {stack : List Thread}
      (haccept : p.instructions[t.address]? = some .accept) :
      Resolves p 1 (t :: stack) (some t.slots)
  | step {n : Nat} {t : Thread} {stack : List Thread} {result : Option Slots} {i : Instruction}
      (hi : p.instructions[t.address]? = some i) (hnot : i ≠ .accept)
      (hrest : Resolves p n (advance t i ++ stack) result) :
      Resolves p (n + 1) (t :: stack) result

variable {p : Program} {n m : Nat} {stack more : List Thread} {t : Thread}
  {result other : Option Slots}

namespace Resolves

/-- What comes of a stack, and when, is fixed. -/
theorem unique (h : p.Resolves n stack result) (hother : p.Resolves m stack other) :
    n = m ∧ result = other := by
  induction h generalizing m with
  | nil =>
      cases hother
      exact ⟨rfl, rfl⟩
  | missing hmissing hrest ih =>
      cases hother with
      | missing _ hother =>
          obtain ⟨rfl, rfl⟩ := ih hother
          exact ⟨rfl, rfl⟩
      | accept haccept => cases hmissing.symm.trans haccept
      | step hi => cases hmissing.symm.trans hi
  | accept haccept =>
      cases hother with
      | missing hmissing => cases hmissing.symm.trans haccept
      | accept => exact ⟨rfl, rfl⟩
      | step hi hnot => exact absurd (Option.some.inj (hi.symm.trans haccept)) hnot
  | step hi hnot hrest ih =>
      cases hother with
      | missing hmissing => cases hmissing.symm.trans hi
      | accept haccept => exact absurd (Option.some.inj (hi.symm.trans haccept)) hnot
      | step hj _ hother =>
          cases hi.symm.trans hj
          obtain ⟨rfl, rfl⟩ := ih hother
          exact ⟨rfl, rfl⟩

/-- Of two stacks one after the other, the second is followed if nothing comes of the first. -/
theorem split (stack : List Thread) (h : p.Resolves n (stack ++ more) result) :
    (∃ slots, result = some slots ∧ p.Resolves n stack (some slots)) ∨
      ∃ k l, n = k + l ∧ p.Resolves k stack none ∧ p.Resolves l more result := by
  generalize hwhole : stack ++ more = whole at h
  -- As long as the first stack has threads the top of the whole is its top.
  induction h generalizing stack with
  | nil =>
      obtain ⟨rfl, rfl⟩ := List.append_eq_nil_iff.mp hwhole
      exact .inr ⟨0, 0, rfl, .nil, .nil⟩
  | @missing n t rest result hmissing hrest ih =>
      cases stack with
      | nil =>
          rw [List.nil_append] at hwhole
          subst hwhole
          exact .inr ⟨0, n + 1, (Nat.zero_add _).symm, .nil, .missing hmissing hrest⟩
      | cons a stack =>
          rw [List.cons_append, List.cons.injEq] at hwhole
          obtain ⟨rfl, hwhole⟩ := hwhole
          rcases ih stack hwhole with ⟨slots, rfl, hfirst⟩ | ⟨k, l, rfl, hfirst, hsecond⟩
          · exact .inl ⟨slots, rfl, .missing hmissing hfirst⟩
          · exact .inr ⟨k + 1, l, by omega, .missing hmissing hfirst, hsecond⟩
  | @accept t rest haccept =>
      cases stack with
      | nil =>
          rw [List.nil_append] at hwhole
          subst hwhole
          exact .inr ⟨0, 1, rfl, .nil, .accept haccept⟩
      | cons a stack =>
          rw [List.cons_append, List.cons.injEq] at hwhole
          obtain ⟨rfl, -⟩ := hwhole
          exact .inl ⟨a.slots, rfl, .accept haccept⟩
  | @step n t rest result i hi hnot hrest ih =>
      cases stack with
      | nil =>
          rw [List.nil_append] at hwhole
          subst hwhole
          exact .inr ⟨0, n + 1, (Nat.zero_add _).symm, .nil, .step hi hnot hrest⟩
      | cons a stack =>
          rw [List.cons_append, List.cons.injEq] at hwhole
          obtain ⟨rfl, rfl⟩ := hwhole
          rcases ih _ (List.append_assoc ..) with ⟨slots, rfl, hfirst⟩ |
            ⟨k, l, rfl, hfirst, hsecond⟩
          · exact .inl ⟨slots, rfl, .step hi hnot hfirst⟩
          · exact .inr ⟨k + 1, l, by omega, .step hi hnot hfirst, hsecond⟩

/-- If nothing comes of a stack, the stack after it is followed. -/
theorem append (h : p.Resolves n stack none) (hmore : p.Resolves m more result) :
    p.Resolves (n + m) (stack ++ more) result := by
  generalize hnone : (none : Option Slots) = first at h
  induction h with
  | nil => simpa using hmore
  | missing hmissing hrest ih =>
      rw [Nat.add_right_comm]
      exact .missing hmissing (ih hnone)
  | accept => cases hnone
  | step hi hnot hrest ih =>
      rw [Nat.add_right_comm, List.cons_append]
      exact .step hi hnot (by rw [← List.append_assoc]; exact ih hnone)

/-- What comes of a stack does not change if another one is put after it. -/
theorem append_some {slots : Slots} (h : p.Resolves n stack (some slots)) (more : List Thread) :
    p.Resolves n (stack ++ more) (some slots) := by
  generalize hsome : some slots = result at h
  induction h with
  | nil => cases hsome
  | missing hmissing hrest ih => exact .missing hmissing (ih hsome)
  | accept haccept => exact .accept haccept
  | step hi hnot hrest ih =>
      rw [List.cons_append]
      exact .step hi hnot (by rw [← List.append_assoc]; exact ih hsome)

end Resolves

/-- Where a thread stands. -/
def point (t : Thread) : Nat × Cursor := (t.address, t.place)

/-- Threads that stand at the same points go on to the same points. -/
theorem map_point_advance {s t : Thread} (h : point s = point t) (i : Instruction) :
    (advance s i).map point = (advance t i).map point := by
  simp only [point, Prod.mk.injEq] at h
  obtain ⟨haddress, hplace⟩ := h
  cases i with
  | char c | set chars =>
      simp only [advance, hplace]
      cases t.place.rest with
      | nil => rfl
      | cons d rest =>
          simp only
          split
          · simp [point, haddress]
          · rfl
  | look l =>
      simp only [advance, hplace]
      split
      · simp [point, haddress]
      · rfl
  | save | split | jump | accept => simp [advance, point, haddress, hplace]

/-- What threads have saved has no influence on the way that they go. -/
theorem Resolves.blind (h : p.Resolves n stack result) (more : List Thread)
    (hpoints : stack.map point = more.map point) :
    ∃ other, p.Resolves n more other ∧ other.isSome = result.isSome := by
  induction h generalizing more with
  | nil =>
      rw [List.map_nil, eq_comm, List.map_eq_nil_iff] at hpoints
      exact ⟨none, hpoints ▸ .nil, rfl⟩
  | missing hmissing hrest ih =>
      obtain ⟨s, rest, rfl, hs, hpoints⟩ := List.map_eq_cons_iff.mp hpoints.symm
      obtain ⟨other, hother, hsome⟩ := ih rest hpoints.symm
      have haddress : s.address = _ := congrArg Prod.fst hs
      exact ⟨other, .missing (haddress ▸ hmissing) hother, hsome⟩
  | accept haccept =>
      obtain ⟨s, rest, rfl, hs, -⟩ := List.map_eq_cons_iff.mp hpoints.symm
      have haddress : s.address = _ := congrArg Prod.fst hs
      exact ⟨some s.slots, .accept (haddress ▸ haccept), rfl⟩
  | @step n t stack result i hi hnot hrest ih =>
      obtain ⟨s, rest, rfl, hs, hpoints⟩ := List.map_eq_cons_iff.mp hpoints.symm
      have hadvance : (advance t i ++ stack).map point = (advance s i ++ rest).map point := by
        rw [List.map_append, List.map_append, map_point_advance hs i, hpoints]
      obtain ⟨other, hother, hsome⟩ := ih _ hadvance
      have haddress : s.address = t.address := congrArg Prod.fst hs
      exact ⟨other, .step (haddress ▸ hi) hnot hother, hsome⟩

end ContainerLint.Pattern.Program
