import ContainerLint.Proofs.Server.Courses
import ContainerLint.Proofs.Server.Ownership
import ContainerLint.Proofs.Server.Replay
import ContainerLint.Proofs.Server.Tasks

/-!
# The runs of a batch

A batch works off the names of the documents that were open when it was opened: its pool is in the
course that `Pool.Course` describes (`State.Batching`, kept by every step in `step_batching`).
What is known of such a course is known of every batch, and its running tasks are the runs of the
batch. `batches_bounded` puts this together with what is known of the loop.
-/

namespace ContainerLint.Server

open Pool (Course Loop Worked)

namespace State

variable {machine : Machine} {s : State} {b c : Batch} {names : List (List String)}
  {items : List String} {limit : Nat} {moves : List (Pool.Move String)}

/-- The names that the batch works off which an event opens, if it opens one: those of all open
documents, in the order of the machine. -/
def opens (s : State) (e : Event) : List (List String) :=
  if e.accepted?.isSome && !s.documents.isEmpty then
    [s.machine.arrange s.batchesStarted (s.documents.map Prod.fst)]
  else []

/-- The names for each batch that is opened in the course of some events. -/
def batchNames (s : State) (events : List Event) : List (List String) := s.collect opens events

/-- On a machine, every batch is identified by its number and in the course of working off its
names, and can start no task at present. -/
structure Batching (s : State) (machine : Machine) (names : List (List String)) : Prop where
  machine_eq : s.machine = machine
  length_eq : names.length = s.batchesStarted
  course : ∀ b ∈ s.batches, ∃ items moves, names[b.id]? = some items ∧
    Course (batchLimit machine.parallelism items.length) items moves b.pool ∧
    b.pool.start? = none

/-! ## Going on with a batch -/

/-- Starting tasks goes on with the course of the pool. -/
theorem fill_course (fuel : Nat) (s : State) (hversion : s.config.version = s.counter)
    (h : Course limit items moves b.pool) :
    ∃ later, Course limit items later (s.fill fuel b).2.1.pool := by
  induction fuel generalizing s b moves with
  | zero => exact ⟨moves, h⟩
  | succ fuel ih =>
      cases hstart : b.pool.start? with
      | none =>
          simp only [fill, hstart]
          exact ⟨moves, h⟩
      | some task =>
          obtain ⟨pool, ticket, uri⟩ := task
          have hnext := h.start hstart
          have hmem : (ticket, uri) ∈ pool.running := by
            rw [(h.ordered.start hstart).2.1]
            exact List.mem_append_right _ (List.mem_singleton.mpr rfl)
          rw [fill_succ fuel hstart]
          have hvalidated :=
            s.validate_validated hversion uri (some b.version) (some ⟨b.id, ticket⟩)
          generalize s.validate uri (some b.version) (some ⟨b.id, ticket⟩) = result at hvalidated
          cases hvalidated with
          | skipped | cleared =>
              exact ih (b := { b with pool := pool.finish ticket none }) s hversion
                (hnext.finish hmem none)
          | started run => exact ih (b := { b with pool := pool }) (s.begin [run]) hversion hnext

/-- A batch that goes on stays in its course, and the others stay as they are. -/
theorem course_proceed (hversion : s.config.version = s.counter)
    (h : Course limit items moves b.pool) (hc : c ∈ (s.proceed b).1.batches) :
    (c.id = b.id ∧ (∃ later, Course limit items later c.pool) ∧ c.pool.start? = none) ∨
      (c.id ≠ b.id ∧ c ∈ s.batches) := by
  obtain ⟨taken, new, last, sent, hfilled, hlast, hproceed⟩ := s.proceed_filled b hversion
  have hid := hfilled.id_eq
  rw [hproceed] at hc
  split at hc
  · obtain ⟨hc, hne⟩ := List.mem_filter.mp hc
    exact .inr ⟨by simpa [hid] using hne, hc⟩
  · obtain ⟨a, ha, rfl⟩ := List.mem_map.mp hc
    split
    · rw [hlast]
      exact .inl ⟨hlast ▸ hid, fill_course _ s hversion h,
        s.fill_exhausts _ b (Nat.lt_succ_self _)⟩
    · rename_i hne
      exact .inr ⟨hid ▸ hne, ha⟩

/-- Going on with a batch opens none, and the machine stays the same. -/
theorem proceed_same (s : State) (hversion : s.config.version = s.counter) (b : Batch) :
    (s.proceed b).1.machine = s.machine ∧ (s.proceed b).1.batchesStarted = s.batchesStarted := by
  obtain ⟨taken, new, c, sent, -, -, hproceed⟩ := s.proceed_filled b hversion
  rw [hproceed]
  split <;> exact ⟨rfl, rfl⟩

/-- Going on with a batch keeps every batch in its course. -/
theorem Batching.proceed (hversion : s.config.version = s.counter)
    (hmachine : s.machine = machine)
    (hlength : names.length = s.batchesStarted)
    (hothers : ∀ a ∈ s.batches, a.id ≠ b.id → ∃ items moves, names[a.id]? = some items ∧
      Course (batchLimit machine.parallelism items.length) items moves a.pool ∧
      a.pool.start? = none)
    (hitems : names[b.id]? = some items)
    (hb : Course (batchLimit machine.parallelism items.length) items moves b.pool) :
    (s.proceed b).1.Batching machine names := by
  obtain ⟨hsame, hstarted⟩ := s.proceed_same hversion b
  refine ⟨hsame.trans hmachine, hlength.trans hstarted.symm, fun c hc => ?_⟩
  rcases course_proceed hversion hb hc with ⟨hid, ⟨later, hcourse⟩, hstuck⟩ | ⟨hne, hold⟩
  · exact ⟨items, later, hid ▸ hitems, hcourse, hstuck⟩
  · exact hothers c hold hne

/-! ## Steps -/

theorem Batching.of_same {t : State} (h : s.Batching machine names)
    (hmachine : t.machine = s.machine) (hbatches : t.batches = s.batches)
    (hstarted : t.batchesStarted = s.batchesStarted) : t.Batching machine names where
  machine_eq := hmachine.trans h.machine_eq
  length_eq := h.length_eq.trans hstarted.symm
  course b hb := h.course b (hbatches ▸ hb)

theorem noted_machine (s : State) (e : Event) : (s.noted e).machine = s.machine := by
  cases e with
  | opened | closed | finished => rfl
  | changed uri text | saved uri text => cases text <;> rfl
  | configured payload =>
      simp only [noted]
      split <;> rfl

theorem Batching.validateSingle (h : s.Batching machine names)
    (hversion : s.config.version = s.counter) (uri : String) :
    (s.validateSingle uri).1.Batching machine names := by
  have hvalidated := s.validateSingle_validated hversion uri
  generalize s.validateSingle uri = reaction at hvalidated
  cases hvalidated with
  | unopened | cleared => exact h
  | started run => exact h.of_same rfl rfl rfl

theorem Batching.validateAll (h : s.Batching machine names) (hs : s.Sound) :
    (s.validateAll s.config.version).1.Batching machine
      (names ++ if s.documents.isEmpty then []
        else [s.machine.arrange s.batchesStarted (s.documents.map Prod.fst)]) := by
  rw [validateAll_eq]
  split
  · rw [List.append_nil]
    exact h
  · have hlast : (names ++ [s.machine.arrange s.batchesStarted (s.documents.map Prod.fst)])[
        s.batchesStarted]? =
          some (s.machine.arrange s.batchesStarted (s.documents.map Prod.fst)) := by
      rw [← h.length_eq]
      exact List.getElem?_concat_length
    obtain rfl := h.machine_eq
    refine Batching.proceed (s := s.openBatch) hs.version rfl ?_ ?_ hlast .begin
    · rw [List.length_append, h.length_eq]
      rfl
    · intro a ha hne
      rcases List.mem_append.mp ha with ha | ha
      · obtain ⟨items, moves, hitems, hcourse⟩ := h.course a ha
        have hlt := (List.getElem?_eq_some_iff.mp hitems).1
        exact ⟨items, moves, (List.getElem?_append_left hlt).trans hitems, hcourse⟩
      · exact absurd (congrArg Batch.id (List.mem_singleton.mp ha)) hne

theorem Batching.finish (h : s.Batching machine names) (hs : s.Sound) (hstaffed : s.Staffed)
    (id : Nat) (result : RunResult) : (s.finish id result).1.Batching machine names := by
  have hfinished := s.finish_finished id result
  generalize s.finish id result = reaction at hfinished
  cases hfinished with
  | unknown => exact h
  | alone | stray => exact h.of_same rfl rfl rfl
  | batched run hmem hid place hplace b hb hbatch hproceed =>
      obtain ⟨hrid, -, -⟩ := record_same b place.ticket (s.verdict run result)
      obtain ⟨items, moves, hitems, hcourse, -⟩ := h.course b hb
      have htask : (place.ticket, run.uri) ∈ b.pool.running := by
        rw [(hstaffed.staffed b hb).tasks, hbatch]
        exact List.mem_filterMap.mpr ⟨run, hmem, Run.task?_of_place hplace⟩
      have hpool : ∃ crash, (record b place.ticket (s.verdict run result)).pool =
          b.pool.finish place.ticket crash := by
        cases s.verdict run result <;> exact ⟨_, rfl⟩
      obtain ⟨crash, hpool⟩ := hpool
      have hended := hcourse.finish htask crash
      rw [← hpool] at hended
      have hgoes := Batching.proceed (s := s.endRun id) hs.version h.machine_eq h.length_eq
        (fun a ha _ => h.course a ha) (hrid ▸ hitems) hended
      rw [hproceed] at hgoes
      exact hgoes

end State

/-- Every step keeps every batch in its course, and opens at most one. -/
theorem step_batching {machine : Machine} {s : State} {names : List (List String)}
    (h : s.Batching machine names) (hs : s.Sound) (hstaffed : s.Staffed) (e : Event) :
    (step s e).1.Batching machine (names ++ s.opens e) := by
  have hstepped := step_stepped s e
  generalize step s e = reaction at hstepped
  have hnothing : e.accepted? = none → names ++ s.opens e = names := by
    intro haccepted
    simp [State.opens, haccepted]
  cases hstepped with
  | idle _ haccepted =>
      rw [hnothing haccepted]
      exact h
  | single _ uri haccepted _ _ _ hbatches hstarted =>
      rw [hnothing haccepted]
      exact (h.of_same (s.noted_machine e) hbatches hstarted).validateSingle
        (hs.noted e).version uri
  | closed uri =>
      rw [hnothing rfl]
      exact h.of_same rfl rfl rfl
  | refused payload text haccepted =>
      rw [hnothing haccepted]
      exact h
  | accepted payload profile haccepted =>
      have haccept : (s.accept profile).Batching machine names := h.of_same rfl rfl rfl
      have hopens : s.opens (.configured payload) =
          if s.documents.isEmpty then []
          else [s.machine.arrange s.batchesStarted (s.documents.map Prod.fst)] := by
        simp only [State.opens, Event.accepted?, haccepted, Option.isSome_some, Bool.true_and]
        cases s.documents.isEmpty <;> rfl
      rw [hopens]
      exact haccept.validateAll (hs.accept profile)
  | finished id result =>
      rw [hnothing rfl]
      exact h.finish hs hstaffed id result

variable {runtime : Runtime} {machine : Machine} {events : List Event} {s : State}
  {sent : List Effect}

theorem History.batching (h : History runtime machine events s sent) :
    s.Batching machine ((State.initial machine).batchNames events) := by
  induction h with
  | start => exact ⟨rfl, rfl, by simp [State.initial]⟩
  | @step events s sent e h hadmits ih =>
      rw [State.batchNames, State.collect_append, ← h.eq_after, State.collect_cons,
        State.collect_nil, List.append_nil]
      exact step_batching ih h.sound h.staffed e

/-- A batch has a run for each of its running tasks, and none once it has ended; so it has no more
runs than it has names, and never more than four. -/
theorem History.length_runs_le (h : History runtime machine events s sent) {batch : Nat}
    {items : List String}
    (hitems : ((State.initial machine).batchNames events)[batch]? = some items) :
    (s.runs.filter fun r => (r.task? batch).isSome).length ≤ min items.length 4 := by
  by_cases hgone : ∀ b ∈ s.batches, b.id ≠ batch
  · have hnone := h.staffed.ended_iff.mp hgone
    rw [List.filter_eq_nil_iff.mpr fun r hr => by simp [hnone r hr]]
    exact Nat.zero_le _
  · simp only [not_forall, not_not] at hgone
    obtain ⟨b, hb, rfl⟩ := hgone
    obtain ⟨names, moves, hnames, hcourse, -⟩ := h.batching.course b hb
    obtain rfl : items = names := Option.some.inj (hitems.symm.trans hnames)
    have hruns : b.pool.running.length =
        (s.runs.filter fun r => (r.task? b.id).isSome).length := by
      rw [(h.staffed.staffed b hb).tasks, List.length_filterMap_eq_countP,
        List.countP_eq_length_filter]
    have haccounts := hcourse.accounts
    have hlength := haccounts.length_eq
    have hbounded := haccounts.bounded moves (List.prefix_refl _)
    rw [← haccounts.running, hruns] at hbounded
    rw [hruns] at hlength
    unfold State.batchLimit at hbounded
    omega

/-- The loop starts each of its items once, in order, and never has more tasks in flight than the
limit allows, of which zero counts as one; it keeps one reason for each task that crashes, and
returns when all tasks have ended and no item is left. The same holds of the pool of every batch
of the server, for the names of the documents that were open when it was opened; and of its runs
no more are in flight than there are such documents, and never more than four. -/
theorem batches_bounded :
    (∀ {α : Type} (limit : Nat) (items : List α) (moves : List (Pool.Move α)) (p : Pool α),
      Loop limit items moves p → Worked limit items moves p) ∧
    ∀ runtime machine events s sent, History runtime machine events s sent →
      (∀ b ∈ s.batches, ∃ items moves,
        ((State.initial machine).batchNames events)[b.id]? = some items ∧
        Course (State.batchLimit machine.parallelism items.length) items moves b.pool ∧
        Worked (State.batchLimit machine.parallelism items.length) items moves b.pool) ∧
      ∀ batch items, ((State.initial machine).batchNames events)[batch]? = some items →
        (s.runs.filter fun r => (r.task? batch).isSome).length ≤ min items.length 4 := by
  refine ⟨?_, fun runtime machine events s sent h => ⟨fun b hb => ?_, ?_⟩⟩
  · intro α limit items moves p h
    exact h.course.1.worked h.course.2
  · obtain ⟨items, moves, hitems, hcourse, hstuck⟩ := h.batching.course b hb
    exact ⟨items, moves, hitems, hcourse, hcourse.worked hstuck⟩
  · intro batch items hitems
    exact h.length_runs_le hitems

/-- Three items with room for two tasks, the second of which crashes and ends first; and new
settings while a document is being validated, which open a batch with one run of its own. -/
theorem batches_bounded_crashed :
    (∃ moves p, Loop 2 ["a", "b", "c"] moves p ∧ p.running = [] ∧
      (Pool.starts moves).map Prod.snd = ["a", "b", "c"] ∧ p.crashes = ["boom"]) ∧
    ∃ s sent, History (fun _ _ _ => True) .plain
        [.configured shortSettings, .opened "a.py" "x", .configured otherSettings] s sent ∧
      s.runs.length = 2 ∧ (s.runs.filter fun r => (r.task? 0).isSome).length = 1 ∧
      ∃ b ∈ s.batches, ∃ items moves,
        Worked (State.batchLimit 4 items.length) items moves b.pool := by
  constructor
  · have hfirst : Loop 2 ["a", "b", "c"] _ _ := .begin
    have hsecond := hfirst.join (show (1, "b") ∈ _ by decide) (some "boom")
    have hthird := hsecond.join (show (0, "a") ∈ _ by decide) none
    have hlast := hthird.join (show (2, "c") ∈ _ by decide) none
    have hworked := batches_bounded.1 _ _ _ _ hlast
    exact ⟨_, _, hlast, by decide, (hworked.done (by decide)).1, by decide⟩
  · obtain ⟨p, hp⟩ := exists_shortProfile
    obtain ⟨q, hq, -⟩ := exists_otherProfile
    have hconfigured :=
      (history_short (fun _ _ _ => True) .plain hp "a.py" "x").step
        (.configured otherSettings) trivial
    have hstep : (step (shortState .plain p "a.py" "x") (.configured otherSettings)).1 =
        { secondState .plain q "a.py" "x" with
          runs := [shortRun p "a.py" "x", ⟨1, "a.py", ⟨0, "x"⟩, 2, q, some ⟨0, 0⟩⟩] } := by
      rcases (shortState .plain p "a.py" "x").configure_cases otherSettings with
        ⟨hnone, -⟩ | ⟨profile, hsome, heq⟩
      · cases hq.symm.trans hnone
      · cases hq.symm.trans hsome
        exact congrArg Prod.fst heq
    rw [hstep] at hconfigured
    have hworked := (batches_bounded.2 _ _ _ _ _ hconfigured).1 _ (List.mem_singleton.mpr rfl)
    obtain ⟨items, moves, -, -, hworked⟩ := hworked
    exact ⟨_, _, hconfigured, rfl, rfl, _, List.mem_singleton.mpr rfl, items, moves, hworked⟩

end ContainerLint.Server
