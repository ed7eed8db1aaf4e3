import ContainerLint.Proofs.Server.History
import Mathlib.Data.List.Pairwise

/-!
# Tasks and runs

A task of a batch goes on as long as its run does: what a batch has running is what was started
for it and has not ended, in the same order (`State.Staffed`, kept by every step in
`step_staffed`). So a run of a batch finds its batch when it ends, and a batch that has not ended
has a run to wait for.
-/

namespace ContainerLint.Server

/-- The task of a batch that a run carries out: its ticket and its document. -/
def Run.task? (batch : Nat) (r : Run) : Option (Nat × String) :=
  match r.place with
  | some place => if place.batch = batch then some (place.ticket, r.uri) else none
  | none => none

theorem Run.task?_of_place {r : Run} {place : BatchPlace} (h : r.place = some place) :
    r.task? place.batch = some (place.ticket, r.uri) := by
  simp [task?, h]

theorem Run.task?_eq_some {r : Run} {batch : Nat} {t : Nat × String} :
    r.task? batch = some t ↔ r.place = some ⟨batch, t.1⟩ ∧ r.uri = t.2 := by
  unfold task?
  cases hplace : r.place with
  | none => simp
  | some place =>
      obtain ⟨other, ticket⟩ := place
      simp only [Option.some.injEq, BatchPlace.mk.injEq]
      split
      · rename_i hbatch
        simp [hbatch, Prod.ext_iff]
      · rename_i hbatch
        simp [hbatch]

/-- The tasks that a batch has running are its runs among some runs. -/
structure Batch.StaffedBy (b : Batch) (runs : List Run) : Prop where
  tasks : b.pool.running = runs.filterMap (Run.task? b.id)
  ordered : b.pool.Ordered
  limit : 0 < b.pool.limit

namespace Batch.StaffedBy

variable {b : Batch} {runs new : List Run}

/-- Runs that are none of its own do not matter to a batch when they are started. -/
theorem append (h : b.StaffedBy runs) (hnew : ∀ r ∈ new, r.task? b.id = none) :
    b.StaffedBy (runs ++ new) where
  tasks := by
    rw [List.filterMap_append, List.filterMap_eq_nil_iff.mpr hnew, List.append_nil]
    exact h.tasks
  ordered := h.ordered
  limit := h.limit

/-- Nor do they when they end. -/
theorem filter (h : b.StaffedBy runs) {keep : Run → Bool}
    (hgone : ∀ r ∈ runs, keep r = false → r.task? b.id = none) :
    b.StaffedBy (runs.filter keep) where
  tasks := by
    rw [h.tasks, List.filterMap_filter]
    refine List.filterMap_congr fun r hr => ?_
    cases hkeep : keep r with
    | true => rfl
    | false => exact hgone r hr hkeep
  ordered := h.ordered
  limit := h.limit

/-- A ticket belongs to one run. -/
theorem eq_of_ticket (h : b.StaffedBy runs) {r q : Run} (hr : r ∈ runs) (hq : q ∈ runs)
    {ticket : Nat} (hrplace : r.place = some ⟨b.id, ticket⟩)
    (hqplace : q.place = some ⟨b.id, ticket⟩) : r = q := by
  have hnodup := h.ordered.nodup
  rw [h.tasks, List.map_filterMap, List.Nodup, List.pairwise_filterMap] at hnodup
  have hsymm : Std.Symm fun r q : Run => ∀ n, (r.task? b.id).map Prod.fst = some n →
      ∀ m, (q.task? b.id).map Prod.fst = some m → n ≠ m :=
    ⟨fun _ _ h m hm n hn => (h n hn m hm).symm⟩
  by_contra hne
  have hapart := hnodup.forall hr hq hne
  refine hapart ticket ?_ ticket ?_ rfl
  · rw [Run.task?_of_place hrplace]
    rfl
  · rw [Run.task?_of_place hqplace]
    rfl

/-- A batch has lost a task when it has taken note of what came of the run. -/
theorem record (h : b.StaffedBy runs) {run : Run} (hrun : run ∈ runs)
    (hid : ∀ r ∈ runs, r.id = run.id → r = run) {ticket : Nat}
    (hplace : run.place = some ⟨b.id, ticket⟩) (v : State.Verdict) :
    (State.record b ticket v).StaffedBy (runs.filter fun r => r.id ≠ run.id) := by
  have hpool : ∃ crash, (State.record b ticket v).pool = b.pool.finish ticket crash := by
    cases v <;> exact ⟨_, rfl⟩
  have hsame := (State.record_same b ticket v).1
  obtain ⟨crash, hpool⟩ := hpool
  refine ⟨?_, hpool ▸ h.ordered.finish ticket crash, hpool ▸ h.limit⟩
  rw [hsame, hpool]
  show b.pool.running.filter (fun t => t.1 ≠ ticket) = _
  rw [h.tasks, List.filter_filterMap, List.filterMap_filter]
  refine List.filterMap_congr fun r hr => ?_
  by_cases hr' : r.id = run.id
  · obtain rfl := hid r hr hr'
    simp [Run.task?_of_place hplace]
  · cases htask : r.task? b.id with
    | none => simp
    | some t =>
        obtain ⟨hrplace, -⟩ := Run.task?_eq_some.mp htask
        have hticket : t.1 ≠ ticket := by
          rintro rfl
          exact hr' (congrArg Run.id (h.eq_of_ticket hr hrun hrplace hplace))
        simp [hr', hticket]

end Batch.StaffedBy

namespace State

/-- What a batch does to its pool when it starts tasks: each new run is the run of a new task. -/
structure Staffs (b : Batch) (new : List Run) (c : Batch) : Prop where
  running : c.pool.running = b.pool.running ++ new.filterMap (Run.task? b.id)
  ordered : c.pool.Ordered
  limit : c.pool.limit = b.pool.limit
  place : ∀ r ∈ new, ∃ ticket, r.place = some ⟨b.id, ticket⟩

theorem begin_inj {s : State} {first second : List Run} (h : s.begin first = s.begin second) :
    first = second :=
  List.append_cancel_left (congrArg State.runs h)

/-- What `fill` does when it starts a task. -/
theorem fill_succ {s : State} {b : Batch} {pool : Pool String} {ticket : Nat} {uri : String}
    (fuel : Nat) (h : b.pool.start? = some (pool, ticket, uri)) :
    s.fill (fuel + 1) b =
      let v := s.validate uri (some b.version) (some ⟨b.id, ticket⟩)
      let next := v.1.1.fill fuel { b with pool := if v.2 then pool else pool.finish ticket none }
      (next.1, next.2.1, v.1.2 ++ next.2.2) := by
  simp [fill, h]

theorem fill_staffs (fuel : Nat) (s : State) (b : Batch) (hversion : s.config.version = s.counter)
    (hordered : b.pool.Ordered) :
    ∃ new, (s.fill fuel b).1 = s.begin new ∧ Staffs b new (s.fill fuel b).2.1 := by
  have hnothing : Staffs b [] b := ⟨by simp, hordered, rfl, by simp⟩
  induction fuel generalizing s b with
  | zero => exact ⟨[], by simp [fill], hnothing⟩
  | succ fuel ih =>
      cases hstart : b.pool.start? with
      | none =>
          simp only [fill, hstart]
          exact ⟨[], by simp, hnothing⟩
      | some task =>
          obtain ⟨pool, ticket, uri⟩ := task
          obtain ⟨-, -, hpool⟩ := Pool.start_eq_some hstart
          have hlimit : pool.limit = b.pool.limit := by rw [hpool]
          obtain ⟨hnext, hrunning, hended⟩ := hordered.start hstart
          rw [fill_succ fuel hstart]
          have hvalidated :=
            s.validate_validated hversion uri (some b.version) (some ⟨b.id, ticket⟩)
          generalize s.validate uri (some b.version) (some ⟨b.id, ticket⟩) = result at hvalidated
          -- Without a run the task has ended at once, and the pool is as before.
          have hdone := hnext.finish ticket none
          cases hvalidated with
          | skipped | cleared =>
              obtain ⟨new, hstate, hstaffs⟩ := ih s { b with pool := pool.finish ticket none }
                hversion hdone ⟨by simp, hdone, rfl, by simp⟩
              refine ⟨new, hstate, ?_, hstaffs.ordered, hstaffs.limit.trans hlimit, hstaffs.place⟩
              exact hstaffs.running.trans (congrArg (· ++ _) hended)
          | started run hfresh huri hid hplace =>
              obtain ⟨new, hstate, hstaffs⟩ := ih (s.begin [run]) { b with pool := pool }
                hversion hnext ⟨by simp, hnext, rfl, by simp⟩
              have htask : run.task? b.id = some (ticket, uri) :=
                Run.task?_eq_some.mpr ⟨hplace, huri⟩
              refine ⟨run :: new, ?_, ?_, hstaffs.ordered, hstaffs.limit.trans hlimit, ?_⟩
              · exact hstate.trans (s.begin_begin [run] new)
              · refine hstaffs.running.trans ?_
                show pool.running ++ _ = _
                rw [hrunning, List.filterMap_cons_some htask, List.append_assoc]
                rfl
              · intro r hr
                rcases List.mem_cons.mp hr with rfl | hr
                · exact ⟨ticket, hplace⟩
                · exact hstaffs.place r hr

/-- With enough fuel `fill` stops only when no more task can be started. -/
theorem fill_exhausts (fuel : Nat) (s : State) (b : Batch)
    (hfuel : b.pool.waiting.length < fuel) :
    (s.fill fuel b).2.1.pool.start? = none := by
  induction fuel generalizing s b with
  | zero => omega
  | succ fuel ih =>
      cases hstart : b.pool.start? with
      | none => simp [fill, hstart]
      | some task =>
          obtain ⟨pool, ticket, uri⟩ := task
          obtain ⟨hwaiting, -, -⟩ := Pool.start_eq_some hstart
          rw [hwaiting, List.length_cons] at hfuel
          rw [fill_succ fuel hstart]
          refine ih _ _ ?_
          show (if _ then pool else pool.finish ticket none).waiting.length < fuel
          split <;> exact Nat.lt_of_succ_lt_succ hfuel

/-- Going on with a batch staffs it with new runs, and it is done as soon as no task of it is
running. -/
theorem proceed_staffs (s : State) (b : Batch) (hversion : s.config.version = s.counter)
    (hordered : b.pool.Ordered) (hlimit : 0 < b.pool.limit) :
    ∃ taken new c sent, s.Filled b taken new c sent ∧ Staffs b new c ∧
      c.pool.isDone = c.pool.running.isEmpty ∧
      s.proceed b =
        if c.pool.isDone then ((s.begin new).dropBatch c, sent ++ closing c)
        else ((s.begin new).storeBatch c, sent) := by
  obtain ⟨taken, new, c, sent, hfill, hfilled⟩ :=
    s.fill_filled (b.pool.waiting.length + 1) b hversion
  obtain ⟨other, hstate, hstaffs⟩ := s.fill_staffs (b.pool.waiting.length + 1) b hversion hordered
  have hexhausted := s.fill_exhausts (b.pool.waiting.length + 1) b (Nat.lt_succ_self _)
  rw [hfill] at hstate hstaffs hexhausted
  obtain rfl : new = other := begin_inj hstate
  refine ⟨taken, new, c, sent, hfilled, hstaffs, ?_, by simp [proceed, hfill]⟩
  -- If something waits, the limit is reached, so something is running.
  rcases Pool.start_eq_none hexhausted with hwaiting | hfull
  · unfold Pool.isDone
    rw [hwaiting]
    rfl
  · have hne : c.pool.running ≠ [] := by
      intro hnil
      rw [hnil, hstaffs.limit] at hfull
      exact absurd hfull (Nat.not_le_of_lt hlimit)
    simp [Pool.isDone, hne]

/-! ## Every batch has its runs -/

/-- Every batch has running what was started for it and has not ended, which is something; and
every run of a batch has its batch. -/
structure Staffed (s : State) : Prop where
  staffed : ∀ b ∈ s.batches, b.StaffedBy s.runs
  busy : ∀ b ∈ s.batches, b.pool.running ≠ []
  home : ∀ r ∈ s.runs, ∀ place, r.place = some place → ∃ b ∈ s.batches, b.id = place.batch

theorem staffed_initial (machine : Machine) : (State.initial machine).Staffed :=
  ⟨by simp [initial], by simp [initial], by simp [initial]⟩

/-- Going on with a batch keeps every batch with its runs. Here `b` stands for the batch of the
state with its identifier. -/
theorem Staffed.proceed {s : State} {b : Batch} (hversion : s.config.version = s.counter)
    (hothers : ∀ a ∈ s.batches, a.id ≠ b.id → a.StaffedBy s.runs ∧ a.pool.running ≠ [])
    (hb : b.StaffedBy s.runs) (hmem : ∃ a ∈ s.batches, a.id = b.id)
    (hhome : ∀ r ∈ s.runs, ∀ place, r.place = some place → ∃ a ∈ s.batches, a.id = place.batch) :
    (s.proceed b).1.Staffed := by
  obtain ⟨taken, new, c, sent, hfilled, hstaffs, hdone, hproceed⟩ :=
    s.proceed_staffs b hversion hb.ordered hb.limit
  have hcid := hfilled.id_eq
  have hc : c.StaffedBy (s.runs ++ new) := by
    refine ⟨?_, hstaffs.ordered, hstaffs.limit ▸ hb.limit⟩
    rw [hstaffs.running, hb.tasks, hcid, List.filterMap_append]
  have hrest : ∀ a ∈ s.batches, a.id ≠ b.id →
      a.StaffedBy (s.runs ++ new) ∧ a.pool.running ≠ [] := by
    intro a ha hne
    obtain ⟨hstaffed, hbusy⟩ := hothers a ha hne
    refine ⟨hstaffed.append fun r hr => ?_, hbusy⟩
    obtain ⟨ticket, hplace⟩ := hstaffs.place r hr
    simp [Run.task?, hplace, hne.symm]
  have hplaced : ∀ r ∈ s.runs ++ new, ∀ place, r.place = some place →
      ∃ a ∈ s.batches, a.id = place.batch := by
    intro r hr place hplace
    rcases List.mem_append.mp hr with hr | hr
    · exact hhome r hr place hplace
    · obtain ⟨ticket, hnew⟩ := hstaffs.place r hr
      obtain ⟨a, ha, haid⟩ := hmem
      cases hplace.symm.trans hnew
      exact ⟨a, ha, haid⟩
  rw [hproceed, hdone]
  cases hrunning : c.pool.running.isEmpty with
  | true =>
      -- No run of the batch is left, so it can be dropped.
      have hnone : c.pool.running = [] := List.isEmpty_iff.mp hrunning
      have hgone : ∀ r ∈ s.runs ++ new, r.task? c.id = none :=
        List.filterMap_eq_nil_iff.mp (hc.tasks.symm.trans hnone)
      refine ⟨?_, ?_, ?_⟩
      · intro a ha
        obtain ⟨ha, hne⟩ := List.mem_filter.mp ha
        exact (hrest a ha (by simpa [hcid] using hne)).1
      · intro a ha
        obtain ⟨ha, hne⟩ := List.mem_filter.mp ha
        exact (hrest a ha (by simpa [hcid] using hne)).2
      · intro r hr place hplace
        obtain ⟨a, ha, haid⟩ := hplaced r hr place hplace
        refine ⟨a, List.mem_filter.mpr ⟨ha, ?_⟩, haid⟩
        have hne : a.id ≠ c.id := by
          intro heq
          have htask := Run.task?_of_place hplace
          rw [← haid, heq, hgone r hr] at htask
          cases htask
        simpa using hne
  | false =>
      have hbusy : c.pool.running ≠ [] := by
        intro hnil
        simp [hnil] at hrunning
      refine ⟨?_, ?_, ?_⟩
      · intro a ha
        obtain ⟨a', ha', rfl⟩ := List.mem_map.mp ha
        split
        · exact hc
        · rename_i hne
          exact (hrest a' ha' (hcid ▸ hne)).1
      · intro a ha
        obtain ⟨a', ha', rfl⟩ := List.mem_map.mp ha
        split
        · exact hbusy
        · rename_i hne
          exact (hrest a' ha' (hcid ▸ hne)).2
      · intro r hr place hplace
        obtain ⟨a, ha, haid⟩ := hplaced r hr place hplace
        refine ⟨_, List.mem_map_of_mem ha, ?_⟩
        split
        · rename_i heq
          exact heq.symm.trans haid
        · exact haid

theorem Staffed.validateSingle {s : State} (h : s.Staffed)
    (hversion : s.config.version = s.counter)
    (uri : String) : (s.validateSingle uri).1.Staffed := by
  have hvalidated := s.validateSingle_validated hversion uri
  generalize s.validateSingle uri = reaction at hvalidated
  cases hvalidated with
  | unopened | cleared => exact h
  | started run hfresh huri hid hplace =>
      have hnone : ∀ batch, run.task? batch = none := by
        intro batch
        simp [Run.task?, hplace]
      refine ⟨fun b hb => (h.staffed b hb).append (by simpa using hnone b.id), h.busy, ?_⟩
      intro r hr place hrplace
      rcases List.mem_append.mp hr with hr | hr
      · exact h.home r hr place hrplace
      · rw [List.mem_singleton.mp hr, hplace] at hrplace
        cases hrplace

theorem Staffed.validateAll {s : State} (h : s.Staffed) (hs : s.Sound) :
    (s.validateAll s.config.version).1.Staffed := by
  rw [validateAll_eq]
  split
  · exact h
  · have hlimit : 0 < s.wholeBatch.pool.limit :=
      Nat.lt_of_lt_of_le Nat.zero_lt_one (Nat.le_max_right _ 1)
    -- The identifier of the new batch is greater than that of any run's batch.
    have hunused : ∀ r ∈ s.runs, r.task? s.wholeBatch.id = none := by
      intro r hr
      rw [Option.eq_none_iff_forall_ne_some]
      intro t ht
      obtain ⟨hplace, -⟩ := Run.task?_eq_some.mp ht
      obtain ⟨b, hb, hid⟩ := h.home r hr _ hplace
      exact hs.id_ne_wholeBatch b hb hid
    refine Staffed.proceed (s := s.openBatch) hs.version ?_
      ⟨(List.filterMap_eq_nil_iff.mpr hunused).symm, Pool.ordered_ofItems _ _, hlimit⟩
      ⟨_, s.wholeBatch_mem, rfl⟩ ?_
    · intro a ha hne
      rcases List.mem_append.mp ha with ha | ha
      · exact ⟨h.staffed a ha, h.busy a ha⟩
      · exact absurd (congrArg Batch.id (List.mem_singleton.mp ha)) hne
    · intro r hr place hplace
      obtain ⟨b, hb, hid⟩ := h.home r hr place hplace
      exact ⟨b, List.mem_append_left _ hb, hid⟩

/-- A run that belongs to no batch leaves the batches as they are. -/
theorem Staffed.endRun {s : State} (h : s.Staffed) {id : Nat}
    (hplace : ∀ r ∈ s.runs, r.id = id → r.place = none) : (s.endRun id).Staffed where
  staffed b hb := (h.staffed b hb).filter fun r hr hgone => by
    have hid : r.id = id := by simpa using hgone
    simp [Run.task?, hplace r hr hid]
  busy := h.busy
  home r hr := h.home r (List.mem_of_mem_filter hr)

theorem Staffed.finish {s : State} (h : s.Staffed) (hs : s.Sound) (id : Nat)
    (result : RunResult) :
    (s.finish id result).1.Staffed := by
  have hfinished := s.finish_finished id result
  generalize s.finish id result = reaction at hfinished
  have honly : ∀ run ∈ s.runs, run.id = id → ∀ r ∈ s.runs, r.id = id → r = run :=
    fun run hmem hid r hr hrid => hs.runs.eq_of_id hr hmem (hrid.trans hid.symm)
  cases hfinished with
  | unknown => exact h
  | alone run hmem hid hplace =>
      exact h.endRun fun r hr hrid => honly run hmem hid r hr hrid ▸ hplace
  | stray run hmem hid place hplace hbatch =>
      obtain ⟨b, hb, hbid⟩ := h.home run hmem place hplace
      exact absurd hbid (hbatch b hb)
  | batched run hmem hid place hplace b hb hbatch hproceed =>
      obtain ⟨hrid, -, -⟩ := record_same b place.ticket (s.verdict run result)
      have hown : run.place = some ⟨b.id, place.ticket⟩ := by rw [hplace, hbatch]
      subst hid
      have hstaffed : ((s.endRun run.id).proceed
          (record b place.ticket (s.verdict run result))).1.Staffed := by
        refine Staffed.proceed (s := s.endRun run.id) hs.version ?_
          ((h.staffed b hb).record hmem (honly run hmem rfl) hown _) ⟨b, hb, hrid.symm⟩
          fun r hr => h.home r (List.mem_of_mem_filter hr)
        intro a ha hne
        refine ⟨(h.staffed a ha).filter fun r hr hgone => ?_, h.busy a ha⟩
        obtain rfl := honly run hmem rfl r hr (by simpa using hgone)
        have hother : b.id ≠ a.id := fun heq => hne (heq.symm.trans hrid.symm)
        simp [Run.task?, hown, hother]
      rw [hproceed] at hstaffed
      exact hstaffed

/-- A batch that has not ended waits for a run. -/
theorem Staffed.exists_run {s : State} (h : s.Staffed) {b : Batch} (hb : b ∈ s.batches) :
    ∃ r ∈ s.runs, ∃ ticket, r.place = some ⟨b.id, ticket⟩ := by
  obtain ⟨t, ht⟩ := List.exists_mem_of_ne_nil _ (h.busy b hb)
  rw [(h.staffed b hb).tasks] at ht
  obtain ⟨r, hr, htask⟩ := List.mem_filterMap.mp ht
  exact ⟨r, hr, t.1, (Run.task?_eq_some.mp htask).1⟩

/-- A batch has ended as soon as none of its runs goes on. -/
theorem Staffed.ended_iff {s : State} (h : s.Staffed) {batch : Nat} :
    (∀ b ∈ s.batches, b.id ≠ batch) ↔ ∀ r ∈ s.runs, r.task? batch = none := by
  constructor
  · intro hended r hr
    rw [Option.eq_none_iff_forall_ne_some]
    intro task htask
    obtain ⟨hplace, -⟩ := Run.task?_eq_some.mp htask
    obtain ⟨b, hb, hid⟩ := h.home r hr _ hplace
    exact hended b hb hid
  · rintro hnone b hb rfl
    obtain ⟨r, hr, ticket, hplace⟩ := h.exists_run hb
    have htask := Run.task?_of_place hplace
    rw [hnone r hr] at htask
    cases htask

end State

/-- Every step keeps every batch with its runs. -/
theorem step_staffed {s : State} (h : s.Staffed) (hs : s.Sound) (e : Event) :
    (step s e).1.Staffed := by
  have hstepped := step_stepped s e
  have hversion := (hs.noted e).version
  generalize step s e = reaction at hstepped
  cases hstepped with
  | idle | refused => exact h
  | single _ uri _ _ _ hruns hbatches =>
      refine State.Staffed.validateSingle ⟨?_, ?_, ?_⟩ hversion uri
      · rw [hruns, hbatches]
        exact h.staffed
      · rw [hbatches]
        exact h.busy
      · rw [hruns, hbatches]
        exact h.home
  | closed uri => exact ⟨h.staffed, h.busy, h.home⟩
  | accepted payload profile =>
      refine State.Staffed.validateAll (s := s.accept profile) ?_ (hs.accept profile)
      exact ⟨h.staffed, h.busy, h.home⟩
  | finished id result => exact h.finish hs id result

theorem History.staffed {runtime : Runtime} {machine : Machine} {events : List Event} {s : State}
    {sent : List Effect} (h : History runtime machine events s sent) : s.Staffed := by
  induction h with
  | start => exact State.staffed_initial machine
  | step e h hadmits ih => exact step_staffed ih h.sound e

end ContainerLint.Server
