import ContainerLint.Proofs.Pattern.Following
import ContainerLint.Proofs.Pattern.Resolution

/-!
# A search takes the leftmost place

From a point that is not alive no thread comes to accept (`Alive`). What was followed in vain is
not alive (`Explores.spent`), and it makes no difference for what comes of other threads
(`Explores.finds` and `Finds.unique`). So what comes of a place does not hang on the places that
were tried before it, whatever the program, and a search takes the first place from which
something comes (`search_eq_findSome?`), which is the first one that is alive
(`first?_isSome_iff`).
-/

namespace ContainerLint.Pattern.Program

variable {p : Program} {k : Cursor} {v w : Visited} {s t : Thread} {stack : List Thread}
  {result other : Option Slots} {i : Instruction}

/-! ## Points from which something comes -/

/-- From the point the program can come to accept. -/
inductive Alive (p : Program) : Nat × Cursor → Prop
  | accept {t : Thread} (haccept : p.instructions[t.address]? = some .accept) : Alive p (point t)
  | step {s t : Thread} {i : Instruction} (hi : p.instructions[t.address]? = some i)
      (hs : s ∈ advance t i) (halive : Alive p (point s)) : Alive p (point t)

/-- Threads that stand at the same point go on to the same points. -/
theorem exists_mem_advance {u : Thread} (h : point s = point t) (hu : u ∈ advance s i) :
    ∃ u' ∈ advance t i, point u' = point u := by
  have hmem : point u ∈ (advance t i).map point :=
    map_point_advance h i ▸ List.mem_map_of_mem hu
  exact List.mem_map.mp hmem

theorem not_alive_of_missing (h : p.instructions[t.address]? = none) : ¬ p.Alive (point t) := by
  generalize hpoint : point t = q
  intro halive
  cases halive with
  | @accept u haccept =>
      have haddress : t.address = u.address := congrArg Prod.fst hpoint
      cases (haddress ▸ h).symm.trans haccept
  | @step s u i hi =>
      have haddress : t.address = u.address := congrArg Prod.fst hpoint
      cases (haddress ▸ h).symm.trans hi

/-- A point is alive if the program accepts there or goes on to one that is. -/
theorem alive_iff (hi : p.instructions[t.address]? = some i) (hnot : i ≠ .accept) :
    p.Alive (point t) ↔ ∃ s ∈ advance t i, p.Alive (point s) := by
  constructor
  · generalize hpoint : point t = q
    intro halive
    cases halive with
    | @accept u haccept =>
        have haddress : t.address = u.address := congrArg Prod.fst hpoint
        exact absurd (Option.some.inj ((haddress ▸ hi).symm.trans haccept)) hnot
    | @step s u j hj hs halive =>
        have haddress : t.address = u.address := congrArg Prod.fst hpoint
        cases (haddress ▸ hi).symm.trans hj
        obtain ⟨s', hs', hsame⟩ := exists_mem_advance hpoint.symm hs
        exact ⟨s', hs', hsame ▸ halive⟩
  · rintro ⟨s, hs, halive⟩
    exact .step hi hs halive

/-! ## What was followed in vain -/

/-- Whatever was followed from `k` on, nothing comes of it. -/
def Spent (p : Program) (k : Cursor) (v : Visited) : Prop :=
  ∀ l ∈ k.onward, ∀ a, v.contains l.index a = true → ¬ p.Alive (a, l)

/-- The thread cannot be followed, or it was. -/
def Settled (p : Program) (v : Visited) (t : Thread) : Prop :=
  p.instructions[t.address]? = none ∨ v.contains t.place.index t.address = true

/-- If nothing comes of a stack, all its threads were followed, and whatever was followed then was
followed in all the ways in which it goes on. -/
theorem Explores.settled (h : p.Explores v stack none w) (horigin : v.origin = k.index)
    (hplaces : ∀ t ∈ stack, t.place ∈ k.onward) :
    (∀ l ∈ k.onward, ∀ a, v.contains l.index a = true → w.contains l.index a = true) ∧
      (∀ t ∈ stack, p.Settled w t) ∧
      ∀ t : Thread, t.place ∈ k.onward → w.contains t.place.index t.address = true →
        v.contains t.place.index t.address = true ∨ ∃ i, p.instructions[t.address]? = some i ∧
          i ≠ .accept ∧ ∀ s ∈ advance t i, p.Settled w s := by
  generalize hnone : (none : Option Slots) = result at h
  induction h with
  | nil => exact ⟨fun _ _ _ h => h, by simp, fun _ _ h => .inl h⟩
  | seen hseen hrest ih =>
      obtain ⟨hplace, hrest⟩ := List.forall_mem_cons.mp hplaces
      obtain ⟨hkept, hstack, hclosed⟩ := ih horigin hrest hnone
      exact ⟨hkept, List.forall_mem_cons.mpr ⟨.inr (hkept _ hplace _ hseen), hstack⟩, hclosed⟩
  | missing hnew hmissing hrest ih =>
      obtain ⟨hkept, hstack, hclosed⟩ :=
        ih horigin (List.forall_mem_cons.mp hplaces).2 hnone
      exact ⟨hkept, List.forall_mem_cons.mpr ⟨.inl hmissing, hstack⟩, hclosed⟩
  | accept => cases hnone
  | @step v w t stack result i hnew hi hnot hrest ih =>
      have hplace := hplaces t List.mem_cons_self
      obtain ⟨hkept, hstack, hclosed⟩ := ih horigin (forall_place_mem_onward hplaces) hnone
      have hle := fun l => v.origin_le_index (l := l) horigin
      have hnow := hkept _ hplace t.address
        ((v.contains_insert (hle _ hplace) (hle _ hplace) _ _).mpr (.inl ⟨rfl, rfl⟩))
      refine ⟨fun l hl a ha => hkept l hl a ?_, List.forall_mem_cons.mpr ⟨.inr hnow, ?_⟩, ?_⟩
      · exact (v.contains_insert (hle _ hplace) (hle l hl) _ a).mpr (.inr ha)
      · exact fun s hs => hstack s (List.mem_append_right _ hs)
      · intro s hs hcontains
        rcases hclosed s hs hcontains with hcontains | hclosed
        · rcases (v.contains_insert (hle _ hplace) (hle _ hs) t.address s.address).mp hcontains
            with ⟨hindex, haddress⟩ | hbefore
          · -- It is the thread that was noted last, or one at its point.
            have hpoint : point s = point t :=
              Prod.ext haddress.symm (Cursor.eq_of_index hs hplace hindex.symm)
            refine .inr ⟨i, haddress ▸ hi, hnot, fun u hu => ?_⟩
            obtain ⟨u', hu', hsame⟩ := exists_mem_advance hpoint hu
            have hsettled := hstack u' (List.mem_append_left _ hu')
            simp only [point, Prod.mk.injEq] at hsame
            rwa [Settled, hsame.1, hsame.2] at hsettled
          · exact .inl hbefore
        · exact .inr hclosed

/-- What was followed in vain is spent, and so are the threads that it was followed for. -/
theorem Explores.spent (h : p.Explores v stack none w) (horigin : v.origin = k.index)
    (hplaces : ∀ t ∈ stack, t.place ∈ k.onward) (hspent : p.Spent k v) : p.Spent k w := by
  obtain ⟨-, -, hclosed⟩ := h.settled horigin hplaces
  have hdead : ∀ q, p.Alive q → q.2 ∈ k.onward → w.contains q.2.index q.1 = true → False := by
    intro q halive
    induction halive with
    | @accept t haccept =>
        intro hplace hcontains
        rcases hclosed t hplace hcontains with hbefore | ⟨i, hi, hnot, -⟩
        · exact hspent _ hplace _ hbefore (.accept haccept)
        · exact hnot (Option.some.inj (hi.symm.trans haccept))
    | @step s t i hi hs halive ih =>
        intro hplace hcontains
        rcases hclosed t hplace hcontains with hbefore | ⟨j, hj, -, hsettled⟩
        · exact hspent _ hplace _ hbefore (.step hi hs halive)
        · cases hi.symm.trans hj
          rcases hsettled s hs with hmissing | hcontains
          · exact not_alive_of_missing hmissing halive
          · exact ih (Cursor.mem_onward_trans hplace (place_mem_onward_of_advance hs)) hcontains
  exact fun l hl a ha halive => hdead (a, l) halive hl ha

/-! ## Following only what is alive -/

/-- What comes of a stack if only points that are alive are followed, each of them once. -/
inductive Finds (p : Program) : List (Nat × Cursor) → List Thread → Option Slots → Prop
  | nil {seen : List (Nat × Cursor)} : Finds p seen [] none
  | drop {seen : List (Nat × Cursor)} {t : Thread} {stack : List Thread} {result : Option Slots}
      (hvain : p.Alive (point t) → point t ∈ seen) (hrest : Finds p seen stack result) :
      Finds p seen (t :: stack) result
  | accept {seen : List (Nat × Cursor)} {t : Thread} {stack : List Thread}
      (hnew : point t ∉ seen) (haccept : p.instructions[t.address]? = some .accept) :
      Finds p seen (t :: stack) (some t.slots)
  | step {seen : List (Nat × Cursor)} {t : Thread} {stack : List Thread} {result : Option Slots}
      {i : Instruction} (halive : p.Alive (point t)) (hnew : point t ∉ seen)
      (hi : p.instructions[t.address]? = some i) (hnot : i ≠ .accept)
      (hrest : Finds p (point t :: seen) (advance t i ++ stack) result) :
      Finds p seen (t :: stack) result

variable {seen : List (Nat × Cursor)}

theorem Finds.unique (h : p.Finds seen stack result) (hother : p.Finds seen stack other) :
    result = other := by
  induction h generalizing other with
  | nil =>
      cases hother
      rfl
  | drop hvain hrest ih =>
      cases hother with
      | drop _ hother => exact ih hother
      | accept hnew haccept => exact absurd (hvain (.accept haccept)) hnew
      | step halive hnew => exact absurd (hvain halive) hnew
  | accept hnew haccept =>
      cases hother with
      | drop hvain => exact absurd (hvain (.accept haccept)) hnew
      | accept => rfl
      | step _ _ hi hnot => exact absurd (Option.some.inj (hi.symm.trans haccept)) hnot
  | step halive hnew hi hnot hrest ih =>
      cases hother with
      | drop hvain => exact absurd (hvain halive) hnew
      | accept _ haccept => exact absurd (Option.some.inj (hi.symm.trans haccept)) hnot
      | step _ _ hj _ hother =>
          cases hi.symm.trans hj
          exact ih hother

/-- Threads that are not alive make no difference. -/
theorem Finds.of_append {first : List Thread} (hfirst : ∀ t ∈ first, ¬ p.Alive (point t))
    (h : p.Finds seen (first ++ stack) result) : p.Finds seen stack result := by
  induction first with
  | nil => exact h
  | cons t first ih =>
      have ht := hfirst t List.mem_cons_self
      cases h with
      | drop _ hrest => exact ih (fun s hs => hfirst s (List.mem_cons_of_mem _ hs)) hrest
      | accept _ haccept => exact absurd (.accept haccept) ht
      | step halive => exact absurd halive ht

/-- What comes of following with a memory hangs only on those points of it that are alive. -/
theorem Explores.finds (h : p.Explores v stack result w) (horigin : v.origin = k.index)
    (hplaces : ∀ t ∈ stack, t.place ∈ k.onward)
    (hseen : ∀ l ∈ k.onward, ∀ a, p.Alive (a, l) →
      (v.contains l.index a = true ↔ (a, l) ∈ seen)) :
    p.Finds seen stack result := by
  induction h generalizing seen with
  | nil => exact .nil
  | @seen v w t stack result hcontains hrest ih =>
      have hplace := hplaces t List.mem_cons_self
      refine .drop (fun halive => (hseen _ hplace _ halive).mp hcontains) ?_
      exact ih horigin (List.forall_mem_cons.mp hplaces).2 hseen
  | missing hnew hmissing hrest ih =>
      refine .drop (fun halive => absurd halive (not_alive_of_missing hmissing)) ?_
      exact ih horigin (List.forall_mem_cons.mp hplaces).2 hseen
  | @accept v t stack hnew haccept =>
      have hplace := hplaces t List.mem_cons_self
      refine .accept (fun hmem => ?_) haccept
      rw [(hseen _ hplace _ (.accept haccept)).mpr hmem] at hnew
      cases hnew
  | @step v w t stack result i hnew hi hnot hrest ih =>
      have hplace := hplaces t List.mem_cons_self
      have hnext := forall_place_mem_onward (i := i) hplaces
      have hle := fun l => v.origin_le_index (l := l) horigin
      by_cases halive : p.Alive (point t)
      · refine .step halive (fun hmem => ?_) hi hnot (ih horigin hnext fun l hl a hal => ?_)
        · rw [(hseen _ hplace _ halive).mpr hmem] at hnew
          cases hnew
        · rw [v.contains_insert (hle _ hplace) (hle l hl), hseen l hl a hal, List.mem_cons]
          refine or_congr_left ⟨?_, ?_⟩
          · rintro ⟨hindex, rfl⟩
            exact Prod.ext rfl (Cursor.eq_of_index hl hplace hindex.symm)
          · intro heq
            cases heq
            exact ⟨rfl, rfl⟩
      · -- The thread was followed in vain, and so were those that it went on to.
        refine .drop (fun h => absurd h halive) ?_
        refine .of_append (fun s hs h => halive ((alive_iff hi hnot).mpr ⟨s, hs, h⟩))
          (ih horigin hnext fun l hl a hal => ?_)
        rw [v.contains_insert (hle _ hplace) (hle l hl), hseen l hl a hal, or_iff_right_iff_imp]
        rintro ⟨hindex, rfl⟩
        refine absurd ?_ halive
        rwa [point, Cursor.eq_of_index hplace hl hindex]

/-! ## Searching -/

/-- What comes of one place, if it is the first one that is tried. -/
def first? (p : Program) (length : Nat) (l : Cursor) : Option Slots :=
  (p.explore (p.rounds length) [⟨0, l, []⟩] (.none l.index)).1

/-- There are enough rounds for what comes after a place. -/
theorem unvisited_lt_rounds {length : Nat} (hlength : k.rest.length ≤ length) (v : Visited) :
    [t].length + 2 * p.unvisited k v < p.rounds length := by
  have hbound := p.unvisited_le k v
  have hplaces : (k.rest.length + 1) * p.instructions.size ≤
      (p.instructions.size + 1) * (length + 1) := by
    rw [Nat.mul_comm]
    exact Nat.mul_le_mul (Nat.le_succ _) (by omega)
  rw [rounds, Nat.mul_assoc, List.length_singleton]
  omega

/-- The first place is tried with an empty memory. -/
theorem explores_first? {length : Nat} {l : Cursor} (hlength : l.rest.length ≤ length) :
    ∃ w, p.Explores (.none l.index) [⟨0, l, []⟩] (p.first? length l) w :=
  ⟨_, explores_explore (k := l) _ rfl (by simpa using l.self_mem_onward)
    (unvisited_lt_rounds hlength _)⟩

theorem Leads.alive {n : Nat} (h : p.Leads n s t)
    (haccept : p.instructions[t.address]? = some .accept) : p.Alive (point s) := by
  induction h with
  | refl => exact .accept haccept
  | step hi hs hrest ih => exact .step hi hs (ih haccept)

/-- Something comes of a place whenever the program can come to accept from there. -/
theorem first?_isSome_iff {length : Nat} {l : Cursor} (hlength : l.rest.length ≤ length) :
    (p.first? length l).isSome ↔ p.Alive (0, l) := by
  obtain ⟨w, hexplores⟩ := explores_first? (p := p) hlength
  have hplaces : ∀ t ∈ [(⟨0, l, []⟩ : Thread)], t.place ∈ l.onward := by
    simpa using l.self_mem_onward
  cases hfirst : p.first? length l with
  | some slots =>
      rw [hfirst] at hexplores
      obtain ⟨s, hs, n, t, hleads, haccept, -⟩ := hexplores.exists_leads
      cases List.mem_singleton.mp hs
      exact iff_of_true rfl (hleads.alive haccept)
  | none =>
      rw [hfirst] at hexplores
      have hspent : p.Spent l w := hexplores.spent rfl hplaces fun m _ a ha => by
        rw [Visited.not_contains_none] at ha
        cases ha
      refine iff_of_false (by simp) fun halive => ?_
      rcases (hexplores.settled rfl hplaces).2.1 _ List.mem_cons_self with hmissing | hfollowed
      · exact not_alive_of_missing hmissing halive
      · exact hspent l l.self_mem_onward 0 hfollowed halive

/-- What comes of a place is the same if others were tried before it in vain. -/
theorem Explores.eq_first? {length : Nat} {l : Cursor} (h : p.Explores v [⟨0, l, []⟩] result w)
    (hlength : k.rest.length ≤ length) (hl : l ∈ k.onward) (horigin : v.origin = k.index)
    (hspent : p.Spent k v) : result = p.first? length l := by
  have hshort : l.rest.length ≤ length := Nat.le_trans (Cursor.rest_length_le hl) hlength
  obtain ⟨w', hfresh⟩ := explores_first? (p := p) hshort
  have hhere : p.Finds [] [⟨0, l, []⟩] result := h.finds horigin (by simpa using hl)
    fun m hm a halive => iff_of_false (fun ha => hspent m hm a ha halive) List.not_mem_nil
  have hthere : p.Finds [] [⟨0, l, []⟩] (p.first? length l) :=
    hfresh.finds (k := l) rfl (by simpa using l.self_mem_onward)
      fun m hm a halive => by simp [Visited.not_contains_none]
  exact hhere.unique hthere

/-- The places that were tried in vain make no difference. -/
theorem searchFrom_eq {length : Nat} (hlength : k.rest.length ≤ length) (tries : Nat) {l : Cursor}
    (hl : l ∈ k.onward) (htries : l.rest.length < tries) (horigin : v.origin = k.index)
    (hspent : p.Spent k v) :
    p.searchFrom (p.rounds length) tries l v = l.onward.findSome? (p.first? length) := by
  induction tries generalizing l v with
  | zero => omega
  | succ tries ih =>
      have hplaces : ∀ t ∈ [(⟨0, l, []⟩ : Thread)], t.place ∈ k.onward := by simpa using hl
      have hexplores := explores_explore (p := p) (p.rounds length) horigin hplaces
        (unvisited_lt_rounds hlength v)
      have hfirst := hexplores.eq_first? hlength hl horigin hspent
      simp only [searchFrom]
      generalize p.explore (p.rounds length) [⟨0, l, []⟩] v = explored at hexplores hfirst
      obtain ⟨found, w⟩ := explored
      simp only at hexplores hfirst
      cases hrest : l.rest with
      | nil =>
          rw [Cursor.onward_nil hrest, List.findSome?_cons, List.findSome?_nil, ← hfirst]
          cases found with
          | some slots => rfl
          | none => simp [Cursor.next?, hrest]
      | cons c rest =>
          rw [Cursor.onward_cons hrest, List.findSome?_cons, ← hfirst]
          cases found with
          | some slots => rfl
          | none =>
              simp only [Cursor.next?, hrest]
              rw [hrest, List.length_cons] at htries
              exact ih (Cursor.mem_onward_trans hl (Cursor.past_mem_onward hrest))
                (Nat.lt_of_succ_lt_succ htries) (hexplores.origin.trans horigin)
                (hexplores.spent horigin hplaces hspent)

/-- A search gives what comes of the first place at or after `k` from which something comes. -/
theorem search_eq_findSome? {length : Nat} (hlength : k.rest.length ≤ length) :
    p.search length k = k.onward.findSome? (p.first? length) :=
  searchFrom_eq hlength _ k.self_mem_onward (by omega) rfl fun l _ a ha => by
    rw [Visited.not_contains_none] at ha
    cases ha

end ContainerLint.Pattern.Program
