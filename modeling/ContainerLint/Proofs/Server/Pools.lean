import ContainerLint.Server.Pool
import Mathlib.Data.List.Nodup

/-!
# Tickets of a pool

The tasks of a pool get their tickets in order (`Pool.Ordered`), so that a ticket stands for one
task. Which tasks can be started does not depend on crashes (`Pool.start?_plain`).
-/

namespace ContainerLint

namespace Pool

variable {α : Type} {p next : Pool α} {ticket : Nat} {a : α}

/-- Tickets are given out in order: no two running tasks share one, and the next is new. -/
structure Ordered (p : Pool α) : Prop where
  lt : ∀ t ∈ p.running, t.1 < p.started
  nodup : (p.running.map Prod.fst).Nodup

theorem ordered_ofItems (limit : Nat) (items : List α) : (ofItems limit items).Ordered :=
  ⟨by simp [ofItems], by simp [ofItems]⟩

/-- The next task gets the next ticket. -/
theorem start_eq_some (h : p.start? = some (next, ticket, a)) :
    p.waiting = a :: next.waiting ∧ ticket = p.started ∧
      next = { p with
        waiting := next.waiting
        running := p.running ++ [(ticket, a)]
        started := p.started + 1 } := by
  unfold start? at h
  split at h
  · split at h
    · cases h
    · rename_i hwaiting
      cases h
      exact ⟨hwaiting, rfl, rfl⟩
  · cases h

/-- A task is started below the limit only. -/
theorem lt_limit_of_start (h : p.start? = some (next, ticket, a)) :
    p.running.length < p.limit := by
  unfold start? at h
  split at h
  · rename_i hlt
    exact hlt
  · cases h

/-- No task can be started once nothing waits or the limit is reached. -/
theorem start_eq_none (h : p.start? = none) : p.waiting = [] ∨ p.limit ≤ p.running.length := by
  unfold start? at h
  split at h
  · split at h
    · rename_i hwaiting
      exact .inl hwaiting
    · cases h
  · rename_i hlimit
    exact .inr (Nat.le_of_not_lt hlimit)

/-- A task that is started keeps tickets in order, and leaves no mark if it ends at once. -/
theorem Ordered.start (h : p.Ordered) (hstart : p.start? = some (next, ticket, a)) :
    next.Ordered ∧ next.running = p.running ++ [(ticket, a)] ∧
      (next.finish ticket none).running = p.running := by
  obtain ⟨-, rfl, hnext⟩ := start_eq_some hstart
  have hne : ∀ t ∈ p.running, t.1 ≠ p.started := fun t ht => Nat.ne_of_lt (h.lt t ht)
  rw [hnext]
  refine ⟨⟨?_, ?_⟩, rfl, ?_⟩
  · intro t ht
    rcases List.mem_append.mp ht with ht | ht
    · exact Nat.lt_succ_of_lt (h.lt t ht)
    · rw [List.mem_singleton.mp ht]
      exact Nat.lt_succ_self _
  · simp only [List.map_append, List.map_cons, List.map_nil]
    refine List.nodup_append.mpr ⟨h.nodup, List.nodup_singleton _, ?_⟩
    intro n hn m hm
    obtain ⟨t, ht, rfl⟩ := List.mem_map.mp hn
    exact List.mem_singleton.mp hm ▸ hne t ht
  · simp only [finish, List.filter_append]
    rw [List.filter_eq_self.mpr (by simpa using hne)]
    simp

theorem Ordered.finish (h : p.Ordered) (ticket : Nat) (crash : Option String) :
    (p.finish ticket crash).Ordered where
  lt t ht := h.lt t (List.mem_of_mem_filter ht)
  nodup := h.nodup.sublist (List.filter_sublist.map Prod.fst)

/-! ## Crashes -/

/-- A pool without the crashes of its tasks. -/
def plain (p : Pool α) : Pool α := { p with crashes := [] }

/-- Crashes do not keep a task from being started. -/
theorem start?_plain (p : Pool α) :
    p.plain.start? = p.start?.map fun task => (task.1.plain, task.2) := by
  unfold start? plain
  split
  · cases p.waiting <;> rfl
  · rfl

end Pool

end ContainerLint
