import ContainerLint.Proofs.Pattern.Groups
import ContainerLint.Proofs.Pattern.Passages

/-!
# Where groups lie

On a way through a pattern places are saved from left to right, and the end of a group after its
start (`Node.Passes.saves`). So the spans of a match lie in the span of the whole, each of them
from left to right (`Slots.Spans`, `spans_of_first?`).
-/

namespace ContainerLint.Pattern

variable {slots : Slots} {slot g : Nat} {k l stop : Cursor} {u v w : Way} {groups more : List Nat}

/-- A group that was started was ended later. -/
def Slots.Closed (slots : Slots) (g : Nat) : Prop :=
  ∀ k, slots.place? (2 * g) = some k → ∃ l, slots.place? (2 * g + 1) = some l ∧ l ∈ k.onward

/-- What is saved for another group makes no difference. -/
theorem Slots.Closed.cons (h : slots.Closed g) (hne : slot / 2 ≠ g) :
    Slots.Closed ((slot, k) :: slots) g := by
  intro l hl
  rw [Slots.place?_cons_ne (by omega)] at hl ⊢
  exact h l hl

/-- Between two ways places were saved from left to right, and only for some groups. -/
structure Way.Saves (groups : List Nat) (w u : Way) : Prop where
  place : u.place ∈ w.place.onward
  saved : ∀ slot, u.slots.place? slot = w.slots.place? slot ∨ slot / 2 ∈ groups ∧
    ∃ k, u.slots.place? slot = some k ∧ k ∈ w.place.onward ∧ u.place ∈ k.onward
  closed : ∀ g, w.slots.Closed g → u.slots.Closed g

namespace Way.Saves

theorem refl (groups : List Nat) (w : Way) : Saves groups w w :=
  ⟨w.place.self_mem_onward, fun _ => .inl rfl, fun _ h => h⟩

theorem trans (h : Saves groups w v) (hmore : Saves groups v u) : Saves groups w u where
  place := Cursor.mem_onward_trans h.place hmore.place
  saved slot := by
    rcases hmore.saved slot with hsame | ⟨hslot, k, hk, hv, hu⟩
    · rw [hsame]
      rcases h.saved slot with hsame | ⟨hslot, k, hk, hw, hv⟩
      · exact .inl hsame
      · exact .inr ⟨hslot, k, hk, hw, Cursor.mem_onward_trans hv hmore.place⟩
    · exact .inr ⟨hslot, k, hk, Cursor.mem_onward_trans h.place hv, hu⟩
  closed g hg := hmore.closed g (h.closed g hg)

theorem mono (h : Saves groups w u) (hgroups : groups ⊆ more) : Saves more w u :=
  ⟨h.place, fun slot => (h.saved slot).imp_right fun ⟨hslot, hk⟩ => ⟨hgroups hslot, hk⟩, h.closed⟩

theorem take {accepts : Char → Bool} (h : u ∈ w.take accepts) : Saves groups w u := by
  obtain ⟨c, rest, hrest, -, rfl⟩ := Way.mem_take.mp h
  exact ⟨Cursor.past_mem_onward hrest, fun _ => .inl rfl, fun _ h => h⟩

theorem literal {text : List Char} {w : Way} (h : u ∈ Way.literal text w) : Saves groups w u := by
  induction text generalizing w with
  | nil =>
      cases List.mem_singleton.mp h
      exact refl groups _
  | cons c text ih =>
      obtain ⟨v, hv, hu⟩ := List.mem_flatMap.mp h
      exact (take hv).trans (ih hu)

theorem rounds {part : Way → Way → Prop} (hpart : ∀ w u, part w u → Saves groups w u) {n : Nat}
    {w : Way} (h : Way.Rounds part n w u) : Saves groups w u :=
  h.lift (refl groups) trans hpart

/-- A group saves where it starts and where it ends, whatever is saved in between. -/
theorem capture (h : Saves groups (w.save (2 * g)) u) :
    Saves (g :: groups) w (u.save (2 * g + 1)) where
  place := h.place
  saved slot := by
    by_cases hstop : 2 * g + 1 = slot
    · subst hstop
      refine .inr ⟨?_, u.place, by simp [save, Slots.place?_cons], h.place,
        u.place.self_mem_onward⟩
      rw [show (2 * g + 1) / 2 = g by omega]
      exact List.mem_cons_self
    · have hlast : (u.save (2 * g + 1)).slots.place? slot = u.slots.place? slot :=
        Slots.place?_cons_ne hstop
      rw [hlast]
      rcases h.saved slot with hsame | ⟨hslot, hk⟩
      · rw [hsame]
        by_cases hstart : 2 * g = slot
        · subst hstart
          refine .inr ⟨?_, w.place, by simp [save, Slots.place?_cons],
            w.place.self_mem_onward, h.place⟩
          rw [Nat.mul_div_cancel_left g Nat.zero_lt_two]
          exact List.mem_cons_self
        · exact .inl (Slots.place?_cons_ne hstart)
      · exact .inr ⟨List.mem_cons_of_mem _ hslot, hk⟩
  closed i hi := by
    by_cases hgi : g = i
    · subst hgi
      intro k hk
      rw [show (u.save (2 * g + 1)).slots.place? (2 * g) = u.slots.place? (2 * g) from
        Slots.place?_cons_ne (by omega)] at hk
      refine ⟨u.place, by simp [save, Slots.place?_cons], ?_⟩
      -- The start that counts is this one, or one that was saved since.
      rcases h.saved (2 * g) with hsame | ⟨-, l, hl, -, hafter⟩
      · rw [hsame] at hk
        have hstart : w.place = k := by simpa [save, Slots.place?_cons] using hk
        exact hstart ▸ h.place
      · cases hl.symm.trans hk
        exact hafter
    · have hbefore : (w.save (2 * g)).slots.Closed i := hi.cons (by omega)
      exact (h.closed i hbefore).cons (by omega)

end Way.Saves

/-- A node saves places for its groups only, from left to right. -/
theorem Node.Passes.saves {n : Node} (h : n.Passes w u) : Way.Saves n.groups w u := by
  induction n generalizing w u with
  | empty =>
      cases h
      exact .refl _ _
  | literal text => exact .literal h
  | set chars => exact .take h
  | look l =>
      obtain ⟨-, rfl⟩ := h
      exact .refl _ u
  | rep sub count greedy ih =>
      obtain ⟨m, -, -, hrounds⟩ := h
      exact .rounds (fun _ _ => ih) hrounds
  | capture index sub ih =>
      obtain ⟨v, hv, rfl⟩ := h
      exact (ih hv).capture
  | cat a b iha ihb =>
      obtain ⟨v, hv, hu⟩ := h
      exact ((iha hv).mono (List.subset_append_left ..)).trans
        ((ihb hu).mono (List.subset_append_right ..))
  | alt a b iha ihb =>
      rcases h with h | h
      · exact (iha h).mono (List.subset_append_left ..)
      · exact (ihb h).mono (List.subset_append_right ..)

/-- The saved places are those of a match from `l` to `stop` and of groups within. -/
structure Slots.Spans (slots : Slots) (l stop : Cursor) : Prop where
  onward : stop ∈ l.onward
  place?_start : slots.place? 0 = some l
  place?_stop : slots.place? 1 = some stop
  inside : ∀ slot k, slots.place? slot = some k → k ∈ l.onward ∧ stop ∈ k.onward
  closed : ∀ g, slots.Closed g

/-- What comes of a place are the spans of a match that starts there. -/
theorem Node.spans_of_first? {n : Node} (hnumbered : 0 ∉ n.groups) {length : Nat}
    (hlength : l.rest.length ≤ length) (h : n.program.first? length l = some slots) :
    ∃ stop, slots.Spans l stop := by
  obtain ⟨u, hpasses, rfl⟩ := passes_of_first? hlength h
  have hsaves := hpasses.saves
  obtain ⟨v, hv, rfl⟩ := hpasses
  refine ⟨v.place, hsaves.place, ?_, rfl, fun slot k hk => ?_, fun g => hsaves.closed g ?_⟩
  · -- No group has the number of the whole match.
    rcases hv.saves.saved 0 with hsame | ⟨hzero, -⟩
    · exact hsame
    · exact absurd hzero hnumbered
  · rcases hsaves.saved slot with hsame | ⟨-, l, hl, hbefore, hafter⟩
    · cases hsame.symm.trans hk
    · cases hl.symm.trans hk
      exact ⟨hbefore, hafter⟩
  · intro k hk
    cases hk

end ContainerLint.Pattern
