import ContainerLint.Proofs.Pattern.Code

/-!
# What is found is a way through the pattern

`Node.Passes` says between which ways a pattern leads. Unlike `Node.ways` it does not say which of
them is preferred, and a part that takes no text may be repeated too. A path through the code of a
node that comes to accept leaves the code at its end, along the node (`crossed`). So whatever the
pattern is, what comes of a place was saved on a way through it (`passes_of_first?`).
-/

namespace ContainerLint.Pattern

/-- A number of rounds, one after the other. -/
def Way.Rounds (part : Way → Way → Prop) : Nat → Way → Way → Prop
  | 0, w, u => u = w
  | n + 1, w, u => ∃ v, part w v ∧ Rounds part n v u

/-- The node leads from one way to the other. -/
def Node.Passes : Node → Way → Way → Prop
  | .empty, w, u => u = w
  | .literal text, w, u => u ∈ Way.literal text w
  | .set chars, w, u => u ∈ w.take chars.contains
  | .look l, w, u => l.holds w.place = true ∧ u = w
  | .rep sub count _, w, u =>
    ∃ n, count.min ≤ n ∧ (∀ m, count.max = some m → n ≤ max count.min m) ∧
      Way.Rounds sub.Passes n w u
  | .capture index sub, w, u =>
    ∃ v, sub.Passes (w.save (2 * index)) v ∧ u = v.save (2 * index + 1)
  | .cat a b, w, u => ∃ v, a.Passes w v ∧ b.Passes v u
  | .alt a b, w, u => a.Passes w u ∨ b.Passes w u

/-- What holds before any round, and of one round after another, holds of all of them together. -/
theorem Way.Rounds.lift {part r : Way → Way → Prop} (hrefl : ∀ w, r w w)
    (htrans : ∀ {w v u}, r w v → r v u → r w u) (hpart : ∀ w u, part w u → r w u) {n : Nat}
    {w u : Way} (h : Rounds part n w u) : r w u := by
  induction n generalizing w with
  | zero =>
      cases h
      exact hrefl _
  | succ n ih =>
      obtain ⟨v, hv, hu⟩ := h
      exact htrans (hpart w v hv) (ih hu)

theorem Way.Rounds.append {part : Way → Way → Prop} {n m : Nat} {u v w : Way}
    (h : Rounds part n w v) (hmore : Rounds part m v u) : Rounds part (n + m) w u := by
  induction n generalizing w with
  | zero =>
      cases h
      rwa [Nat.zero_add]
  | succ n ih =>
      obtain ⟨x, hx, hrest⟩ := h
      rw [Nat.succ_add]
      exact ⟨x, hx, ih hrest⟩

namespace Program

variable {p : Program} {a b c base stop : Nat} {r s : Way → Way → Prop} {i : Instruction}
  {greedy : Bool} {code : Nat → List Instruction} {size : Nat}

/-- A path to acceptance goes on from an instruction that does not accept. -/
theorem Leads.goes_on {n : Nat} {r t : Thread}
    (h : p.Leads n r t) (haccept : p.instructions[t.address]? = some .accept)
    (hi : p.instructions[r.address]? = some i) (hnot : i ≠ .accept) :
    ∃ m s, n = m + 1 ∧ s ∈ advance r i ∧ p.Leads m s t := by
  cases h with
  | refl => exact absurd (Option.some.inj (hi.symm.trans haccept)) hnot
  | step hj hs hrest =>
      cases hi.symm.trans hj
      exact ⟨_, _, rfl, hs, hrest⟩

/-- A path from address `a` that comes to accept goes by address `b`, and along `r` to there. -/
def Crosses (p : Program) (a : Nat) (r : Way → Way → Prop) (b : Nat) : Prop :=
  ∀ n w t, p.Leads n (w.thread a) t → p.instructions[t.address]? = some .accept →
    ∃ m u, m ≤ n ∧ r w u ∧ p.Leads m (u.thread b) t

namespace Crosses

theorem refl (p : Program) (a : Nat) : p.Crosses a (fun w u => u = w) a :=
  fun n w _ hleads _ => ⟨n, w, Nat.le_refl n, rfl, hleads⟩

theorem trans (hr : p.Crosses a r b) (hs : p.Crosses b s c) :
    p.Crosses a (fun w u => ∃ v, r w v ∧ s v u) c := by
  intro n w t hleads haccept
  obtain ⟨m, v, hm, hv, hleads⟩ := hr n w t hleads haccept
  obtain ⟨k, u, hk, hu, hleads⟩ := hs m v t hleads haccept
  exact ⟨k, u, Nat.le_trans hk hm, ⟨v, hv, hu⟩, hleads⟩

theorem mono (h : p.Crosses a r b) (hle : ∀ w u, r w u → s w u) : p.Crosses a s b := by
  intro n w t hleads haccept
  obtain ⟨m, u, hm, hu, hleads⟩ := h n w t hleads haccept
  exact ⟨m, u, hm, hle w u hu, hleads⟩

/-- An instruction that advances to the next address. -/
theorem single {onward : Way → List Way} (hi : p.instructions[a]? = some i) (hnot : i ≠ .accept)
    (hadvance : ∀ w, advance (w.thread a) i = (onward w).map (Way.thread (a + 1))) :
    p.Crosses a (fun w u => u ∈ onward w) (a + 1) := by
  intro n w t hleads haccept
  obtain ⟨m, s, rfl, hs, hleads⟩ := hleads.goes_on haccept hi hnot
  rw [hadvance] at hs
  obtain ⟨u, hu, rfl⟩ := List.mem_map.mp hs
  exact ⟨m, u, Nat.le_succ m, hu, hleads⟩

theorem jump (hi : p.instructions[a]? = some (.jump b)) (h : p.Crosses b r c) :
    p.Crosses a r c := by
  intro n w t hleads haccept
  obtain ⟨m, s, rfl, hs, hleads⟩ := hleads.goes_on haccept hi (by simp)
  cases List.mem_singleton.mp hs
  obtain ⟨k, u, hk, hu, hleads⟩ := h m w t hleads haccept
  exact ⟨k, u, Nat.le_succ_of_le hk, hu, hleads⟩

theorem split {x y : Nat} (hi : p.instructions[a]? = some (.split x y)) (hx : p.Crosses x r b)
    (hy : p.Crosses y s b) : p.Crosses a (fun w u => r w u ∨ s w u) b := by
  intro n w t hleads haccept
  obtain ⟨m, v, rfl, hv, hleads⟩ := hleads.goes_on haccept hi (by simp)
  simp only [advance, List.mem_cons, List.not_mem_nil, or_false] at hv
  rcases hv with rfl | rfl
  · obtain ⟨k, u, hk, hu, hleads⟩ := hx m w t hleads haccept
    exact ⟨k, u, Nat.le_succ_of_le hk, .inl hu, hleads⟩
  · obtain ⟨k, u, hk, hu, hleads⟩ := hy m w t hleads haccept
    exact ⟨k, u, Nat.le_succ_of_le hk, .inr hu, hleads⟩

/-- A choice to enter a part or to go past it. -/
theorem enter {inside : Nat} (hi : p.instructions[a]? = some (Instruction.enter greedy inside b))
    (hinside : p.Crosses inside r b) : p.Crosses a (fun w u => r w u ∨ u = w) b := by
  cases greedy with
  | true => exact split hi hinside (refl p b)
  | false => exact (split hi (refl p b) hinside).mono fun _ _ => Or.symm

theorem char {d : Char} (hi : p.instructions[a]? = some (.char d)) :
    p.Crosses a (fun w u => u ∈ w.take (d = ·)) (a + 1) :=
  single hi (by simp) fun w => advance_char w a d

theorem set {chars : CharSet} (hi : p.instructions[a]? = some (.set chars)) :
    p.Crosses a (fun w u => u ∈ w.take chars.contains) (a + 1) :=
  single hi (by simp) fun w => advance_set w a chars

theorem look {l : Look} (hi : p.instructions[a]? = some (.look l)) :
    p.Crosses a (fun w u => l.holds w.place = true ∧ u = w) (a + 1) :=
  (single hi (by simp) fun w => advance_look w a l).mono fun w u hu => by
    simpa only [List.mem_ite_nil_right, List.mem_singleton] using hu

theorem save {slot : Nat} (hi : p.instructions[a]? = some (.save slot)) :
    p.Crosses a (fun w u => u = w.save slot) (a + 1) :=
  (single hi (by simp) fun _ => rfl).mono fun w _ hu => List.mem_singleton.mp hu

theorem literal {text : List Char} (h : p.Holds base (text.map .char)) :
    p.Crosses base (fun w u => u ∈ Way.literal text w) (base + text.length) := by
  induction text generalizing base with
  | nil => exact (refl p base).mono fun w u hu => List.mem_singleton.mpr hu
  | cons d text ih =>
      have hall := (char h.head).trans (ih h.tail)
      rw [List.length_cons, Nat.add_comm text.length, ← Nat.add_assoc]
      exact hall.mono fun w u hu => List.mem_flatMap.mpr hu

/-! ## Repetitions -/

/-- Copies of a part, one after the other. -/
theorem copies (hpart : ∀ base, p.Holds base (code base) → p.Crosses base r (base + size))
    (hsize : ∀ base, (code base).length = size) (n : Nat)
    (h : p.Holds base (Node.copies code size n base)) :
    p.Crosses base (Way.Rounds r n) (base + n * size) := by
  induction n generalizing base with
  | zero => exact (Nat.zero_mul size).symm ▸ refl p base
  | succ n ih =>
      have hlater := h.right
      rw [hsize] at hlater
      have hall := (hpart base h.left).trans (ih hlater)
      rw [Nat.succ_mul, Nat.add_comm (n * size), ← Nat.add_assoc]
      exact hall

/-- Copies of a part, each of which may be left out with all later ones. -/
theorem options (hpart : ∀ base, p.Holds base (code base) → p.Crosses base r (base + size))
    (hsize : ∀ base, (code base).length = size) (n : Nat) (hstop : base + n * (size + 1) = stop)
    (h : p.Holds base (Node.options code size greedy stop n base)) :
    p.Crosses base (fun w u => ∃ m ≤ n, Way.Rounds r m w u) stop := by
  induction n generalizing base with
  | zero =>
      rw [Nat.zero_mul, Nat.add_zero] at hstop
      subst hstop
      exact (refl p base).mono fun w u hu => ⟨0, Nat.le_refl 0, hu⟩
  | succ n ih =>
      have hlater := h.tail.right
      rw [hsize] at hlater
      have hrest : base + 1 + size + n * (size + 1) = stop := by
        rw [← hstop, Nat.succ_mul]
        omega
      refine (enter h.head ((hpart _ h.tail.left).trans (ih hrest hlater))).mono fun w u hu => ?_
      rcases hu with ⟨v, hv, m, hm, hu⟩ | rfl
      · exact ⟨m + 1, Nat.succ_le_succ hm, v, hv, hu⟩
      · exact ⟨0, Nat.zero_le _, rfl⟩

/-- A choice to enter a part that leads back to the choice. -/
theorem loop {inside : Nat}
    (hi : p.instructions[a]? = some (Instruction.enter greedy inside stop))
    (hpart : p.Crosses inside r a) : p.Crosses a (fun w u => ∃ n, Way.Rounds r n w u) stop := by
  intro n w t hleads haccept
  -- Each round takes a part of the path away.
  induction n using Nat.strongRecOn generalizing w with
  | ind n ih =>
      have hnot : Instruction.enter greedy inside stop ≠ .accept := by
        cases greedy <;> simp [Instruction.enter]
      obtain ⟨m, v, rfl, hv, hleads⟩ := hleads.goes_on haccept hi hnot
      have hboth : v = w.thread inside ∨ v = w.thread stop := by
        cases greedy <;> simpa [Instruction.enter, advance, Way.thread, or_comm] using hv
      rcases hboth with rfl | rfl
      · obtain ⟨k, x, hk, hx, hleads⟩ := hpart m w t hleads haccept
        obtain ⟨j, u, hj, ⟨rounds, hu⟩, hleads⟩ := ih k (Nat.lt_succ_of_le hk) x hleads
        exact ⟨j, u, by omega, ⟨rounds + 1, x, hx, hu⟩, hleads⟩
      · exact ⟨m, w, Nat.le_succ m, ⟨0, rfl⟩, hleads⟩

end Crosses

end Program

namespace Node

variable {p : Program}

/-- Wherever the code of the node stands in the program, it is crossed along the node. -/
def Crossed (p : Program) (n : Node) : Prop :=
  ∀ base, p.Holds base (n.code base) → p.Crosses base n.Passes (base + n.size)

namespace Crossed

variable {sub a b : Node} {greedy : Bool}

theorem bounded {least m : Nat} (hsub : Crossed p sub) :
    Crossed p (rep sub ⟨least, some m⟩ greedy) := by
  intro base h
  have hoptions := h.right
  rw [length_copies sub.length_code] at hoptions
  rw [stop_bounded]
  refine ((Program.Crosses.copies hsub sub.length_code least h.left).trans
    (.options hsub sub.length_code (m - least) rfl hoptions)).mono fun w u hu => ?_
  obtain ⟨v, hv, n, hn, hu⟩ := hu
  refine ⟨least + n, Nat.le_add_right .., fun most hmost => ?_, hv.append hu⟩
  cases hmost
  simp only
  omega

/-- Any number of rounds is within no bound. -/
theorem star (hsub : Crossed p sub) : Crossed p (rep sub ⟨0, none⟩ greedy) := by
  intro base h
  have hany : ∀ {n w u}, Way.Rounds sub.Passes n w u → (rep sub ⟨0, none⟩ greedy).Passes w u :=
    fun hu => ⟨_, Nat.zero_le _, by simp, hu⟩
  rw [stop_star]
  simp only [code, repCode] at h
  split at h
  · have hback := h.tail.right.head
    rw [sub.length_code] at hback
    -- A round ends with a jump back to the place of decision.
    have hround := (hsub _ h.tail.left).trans (.jump hback (.refl p base))
    refine (Program.Crosses.loop h.head hround).mono fun w u hu => ?_
    obtain ⟨n, hu⟩ := hu
    exact hany (n := n) (by simpa using hu)
  · have hagain := h.tail.right.head
    rw [sub.length_code] at hagain
    -- Before the first round it is decided as it is after each.
    have hrounds := (hsub _ h.tail.left).trans (.loop hagain (hsub _ h.tail.left))
    refine (Program.Crosses.enter h.head hrounds).mono fun w u hu => ?_
    rcases hu with ⟨v, hv, n, hu⟩ | rfl
    · exact hany (n := n + 1) ⟨v, hv, hu⟩
    · exact hany (n := 0) rfl

theorem plus {n : Nat} (hsub : Crossed p sub) : Crossed p (rep sub ⟨n + 1, none⟩ greedy) := by
  intro base h
  simp only [code, repCode] at h
  have hlast := h.right
  rw [length_copies sub.length_code] at hlast
  have hagain := hlast.right.head
  rw [sub.length_code] at hagain
  have hround := hsub _ hlast.left
  rw [stop_plus]
  refine (((Program.Crosses.copies hsub sub.length_code n h.left).trans hround).trans
    (.loop hagain hround)).mono fun w u hu => ?_
  obtain ⟨v, ⟨x, hx, hv⟩, more, hu⟩ := hu
  have hmust : Way.Rounds sub.Passes (n + 1) w v := hx.append (m := 1) ⟨v, hv, rfl⟩
  exact ⟨n + 1 + more, Nat.le_add_right .., by simp, hmust.append hu⟩

theorem capture {index : Nat} (hsub : Crossed p sub) : Crossed p (capture index sub) := by
  intro base h
  have hclose := h.tail.right.head
  rw [sub.length_code] at hclose
  rw [stop_capture]
  refine (((Program.Crosses.save h.head).trans (hsub _ h.tail.left)).trans (.save hclose)).mono
    fun w u hu => ?_
  obtain ⟨v, ⟨x, rfl, hv⟩, rfl⟩ := hu
  exact ⟨v, hv, rfl⟩

theorem cat (ha : Crossed p a) (hb : Crossed p b) : Crossed p (cat a b) := by
  intro base h
  have hsecond := h.right
  rw [a.length_code] at hsecond
  have hall := (ha base h.left).trans (hb _ hsecond)
  rw [size, ← Nat.add_assoc]
  exact hall

theorem alt (ha : Crossed p a) (hb : Crossed p b) : Crossed p (alt a b) := by
  intro base h
  have hafter := h.tail.right
  rw [a.length_code] at hafter
  have hsecond := hafter.tail
  have haddress : base + 1 + a.size + 1 = base + a.size + 2 := by omega
  rw [haddress] at hsecond
  have hother := hb _ hsecond
  rw [show base + a.size + 2 + b.size = base + a.size + b.size + 2 by omega] at hother
  rw [stop_alt]
  -- The first part is left with a jump over the second.
  refine (Program.Crosses.split h.head ((ha _ h.tail.left).trans (.jump hafter.head (.refl p _)))
    hother).mono fun w u hu => ?_
  rcases hu with ⟨v, hv, rfl⟩ | hu
  · exact .inl hv
  · exact .inr hu

end Crossed

/-- The code of every node is crossed along the node. -/
theorem crossed (p : Program) (n : Node) : Crossed p n := by
  induction n with
  | empty => exact fun base _ => .refl p base
  | literal text => exact fun _ h => .literal h
  | set chars => exact fun _ h => .set h.head
  | look l => exact fun _ h => .look h.head
  | rep sub count greedy ih =>
      obtain ⟨least, most⟩ := count
      cases most with
      | some m => exact ih.bounded
      | none =>
          cases least with
          | zero => exact ih.star
          | succ n => exact ih.plus
  | capture index sub ih => exact ih.capture
  | cat a b iha ihb => exact iha.cat ihb
  | alt a b iha ihb => exact iha.alt ihb

/-- What comes of a place was saved on a way through the pattern from there. -/
theorem passes_of_first? {n : Node} {length : Nat} {l : Cursor} {slots : Slots}
    (hlength : l.rest.length ≤ length) (h : n.program.first? length l = some slots) :
    ∃ u, (capture 0 n).Passes ⟨l, []⟩ u ∧ u.slots = slots := by
  obtain ⟨hcode, hstop⟩ := n.holds_program
  obtain ⟨w, hexplores⟩ := Program.explores_first? (p := n.program) hlength
  rw [h] at hexplores
  obtain ⟨s, hs, m, t, hleads, haccept, rfl⟩ := hexplores.exists_leads
  cases List.mem_singleton.mp hs
  obtain ⟨k, u, -, hu, hleads⟩ :=
    (capture 0 n).crossed n.program 0 hcode m ⟨l, []⟩ t hleads haccept
  -- Nothing comes after the instruction that accepts.
  cases hleads with
  | refl => exact ⟨u, hu, rfl⟩
  | step hi hnext =>
      cases hstop.symm.trans hi
      cases hnext

end Node

end ContainerLint.Pattern
