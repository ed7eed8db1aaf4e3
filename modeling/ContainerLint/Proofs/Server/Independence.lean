import ContainerLint.Proofs.Server.Reports

/-!
# What notes have no influence on

Batches are worked off in the same way whatever their tasks come to: failures and crashes are
noted, told at the end, and not looked at in between. So steps from states that are the same
without the notes of their batches (`State.plain`) do the same apart from reports
(`step_plain_eq`). How a run of a batch ends has therefore no influence on the runs that are
started then (`finish_plain_eq`), nor on anything but reports later on (`effects_plain_eq`).
-/

namespace ContainerLint.Server

/-- A batch without its notes. -/
def Batch.plain (b : Batch) : Batch := { b with pool := b.pool.plain, failures := .empty }

/-- A state without the notes of its batches. -/
def State.plain (s : State) : State := { s with batches := s.batches.map Batch.plain }

/-- What is done apart from reports. -/
def unreported (sent : List Effect) : List Effect := sent.filter fun e => !e.isReport

/-- The run that an effect starts. -/
def Effect.started? : Effect → Option Run
  | .start run => some run
  | _ => none

/-- The runs that are started by some effects. -/
def started (sent : List Effect) : List Run := sent.filterMap Effect.started?

@[simp] theorem Batch.plain_id (b : Batch) : b.plain.id = b.id := rfl

@[simp] theorem Batch.plain_version (b : Batch) : b.plain.version = b.version := rfl

@[simp] theorem Batch.plain_waiting (b : Batch) : b.plain.pool.waiting = b.pool.waiting := rfl

@[simp] theorem Batch.plain_isDone (b : Batch) : b.plain.pool.isDone = b.pool.isDone := rfl

namespace State

variable {s t : State}

/-! ## Reports and the rest -/

theorem unreported_append (first second : List Effect) :
    unreported (first ++ second) = unreported first ++ unreported second :=
  List.filter_append first second

theorem unreported_closing (b : Batch) : unreported (closing b) = [] := by
  simp [unreported, closing, Effect.isReport]

theorem started_append (first second : List Effect) :
    started (first ++ second) = started first ++ started second :=
  List.filterMap_append

/-- To start a run is no report. -/
theorem started_unreported (sent : List Effect) : started (unreported sent) = started sent := by
  unfold started unreported
  rw [List.filterMap_filter]
  refine List.filterMap_congr fun e _ => ?_
  cases e <;> rfl

/-! ## Working off a batch without notes -/

theorem plain_validate (s : State) (uri : String) (expected : Option Nat)
    (place : Option BatchPlace) :
    s.plain.validate uri expected place =
      (((s.validate uri expected place).1.1.plain, (s.validate uri expected place).1.2),
        (s.validate uri expected place).2) := by
  have hdocuments : s.plain.documents = s.documents := rfl
  have hconfig : s.plain.config = s.config := rfl
  have hcounts : ∀ version insertion,
      s.plain.counts uri version insertion = s.counts uri version insertion := fun _ _ => rfl
  simp only [validate, hdocuments, hconfig, hcounts]
  cases s.documents.lookup uri with
  | none => rfl
  | some d =>
      by_cases hold : expected.any (· ≠ s.config.version) = true
      · simp only [hold, if_true]
      · simp only [hold]
        cases s.config.profile with
        | none =>
            simp only
            generalize s.counts uri s.config.version d.insertion = current
            cases current <;> rfl
        | some p => rfl

theorem plain_fill (fuel : Nat) (s : State) (b : Batch) :
    s.plain.fill fuel b.plain =
      ((s.fill fuel b).1.plain, (s.fill fuel b).2.1.plain, (s.fill fuel b).2.2) := by
  induction fuel generalizing s b with
  | zero => rfl
  | succ fuel ih =>
      have hplain := b.pool.start?_plain
      cases hstart : b.pool.start? with
      | none =>
          have hnone : b.plain.pool.start? = none := by rw [Batch.plain, hplain, hstart]; rfl
          simp only [fill, hstart, hnone]
      | some task =>
          obtain ⟨pool, ticket, uri⟩ := task
          have hsome : b.plain.pool.start? = some (pool.plain, ticket, uri) := by
            rw [Batch.plain, hplain, hstart]
            rfl
          have hvalidate :=
            s.plain_validate uri (some b.plain.version) (some ⟨b.plain.id, ticket⟩)
          rw [fill_succ fuel hstart, fill_succ fuel hsome, hvalidate, b.plain_version, b.plain_id]
          obtain ⟨⟨u, done⟩, inFlight⟩ := s.validate uri (some b.version) (some ⟨b.id, ticket⟩)
          have hnext :=
            ih u { b with pool := if inFlight then pool else pool.finish ticket none }
          -- The pool that the batch is filled from next has the task, or has ended it.
          cases inFlight with
          | true => exact congrArg (fun v => (v.1, v.2.1, done ++ v.2.2)) hnext
          | false => exact congrArg (fun v => (v.1, v.2.1, done ++ v.2.2)) hnext

theorem plain_storeBatch (s : State) (b : Batch) :
    s.plain.storeBatch b.plain = (s.storeBatch b).plain := by
  have hbatches : (s.plain.batches.map fun c => if c.id = b.plain.id then b.plain else c) =
      (s.batches.map fun c => if c.id = b.id then b else c).map Batch.plain := by
    show ((s.batches.map Batch.plain).map _) = _
    rw [List.map_map, List.map_map]
    refine List.map_congr_left fun c _ => ?_
    show (if c.plain.id = b.plain.id then b.plain else c.plain) =
      (if c.id = b.id then b else c).plain
    rw [c.plain_id, b.plain_id]
    split <;> rfl
  unfold storeBatch
  rw [hbatches]
  rfl

theorem plain_dropBatch (s : State) (b : Batch) :
    s.plain.dropBatch b.plain = (s.dropBatch b).plain := by
  have hbatches : (s.plain.batches.filter fun c => c.id ≠ b.plain.id) =
      (s.batches.filter fun c => c.id ≠ b.id).map Batch.plain := by
    show ((s.batches.map Batch.plain).filter _) = _
    rw [List.filter_map]
    rfl
  unfold dropBatch
  rw [hbatches]
  rfl

/-- A batch goes on in the same way without notes, and only reports are missing. -/
theorem plain_proceed (s : State) (b : Batch) :
    (s.plain.proceed b.plain).1 = (s.proceed b).1.plain ∧
      unreported (s.plain.proceed b.plain).2 = unreported (s.proceed b).2 := by
  unfold proceed
  rw [b.plain_waiting, plain_fill]
  obtain ⟨u, c, done⟩ := s.fill (b.pool.waiting.length + 1) b
  by_cases hdone : c.pool.isDone = true
  · simp only [c.plain_isDone, hdone, if_true, unreported_append, unreported_closing]
    exact ⟨u.plain_dropBatch c, trivial⟩
  · simp only [c.plain_isDone, hdone]
    exact ⟨u.plain_storeBatch c, rfl⟩

/-! ## States that are the same but for notes -/

/-- Notes have no influence on how a batch goes on. -/
theorem proceed_plain_eq {b c : Batch} (h : s.plain = t.plain) (hb : b.plain = c.plain) :
    (s.proceed b).1.plain = (t.proceed c).1.plain ∧
      unreported (s.proceed b).2 = unreported (t.proceed c).2 := by
  obtain ⟨hs, hsdone⟩ := s.plain_proceed b
  obtain ⟨ht, htdone⟩ := t.plain_proceed c
  rw [h, hb] at hs hsdone
  exact ⟨hs.symm.trans ht, hsdone.symm.trans htdone⟩

theorem validateSingle_plain_eq (h : s.plain = t.plain) (uri : String) :
    (s.validateSingle uri).1.plain = (t.validateSingle uri).1.plain ∧
      unreported (s.validateSingle uri).2 = unreported (t.validateSingle uri).2 := by
  have hs := s.plain_validate uri none none
  rw [h, t.plain_validate uri none none] at hs
  obtain ⟨hreaction, -⟩ := Prod.mk.inj hs
  obtain ⟨hstate, hdone⟩ := Prod.mk.inj hreaction
  exact ⟨hstate.symm, congrArg unreported hdone.symm⟩

theorem validateAll_plain_eq (h : s.plain = t.plain) (version : Nat) :
    (s.validateAll version).1.plain = (t.validateAll version).1.plain ∧
      unreported (s.validateAll version).2 = unreported (t.validateAll version).2 := by
  obtain ⟨hmachine, hdocuments, hinsertions, hconfig, hcounter, hruns, hrunsStarted, hbatches,
    hstarted⟩ := State.mk.inj h
  unfold validateAll
  rw [hdocuments, hmachine, hstarted]
  split
  · exact ⟨h, rfl⟩
  · refine proceed_plain_eq ?_ rfl
    simp only [plain, List.map_append, hinsertions, hconfig, hcounter, hruns, hrunsStarted,
      hbatches]

theorem configure_plain_eq (h : s.plain = t.plain) (payload : Value) :
    (s.configure payload).1.plain = (t.configure payload).1.plain ∧
      unreported (s.configure payload).2 = unreported (t.configure payload).2 := by
  obtain ⟨-, -, -, -, hcounter, -⟩ := State.mk.inj h
  rcases s.configure_cases payload with ⟨hrefused, text, hs⟩ | ⟨profile, haccepted, hs⟩ <;>
    rcases t.configure_cases payload with ⟨hother, more, ht⟩ | ⟨other, hother, ht⟩
  · rw [hs, ht]
    exact ⟨h, rfl⟩
  · cases hrefused.symm.trans hother
  · cases haccepted.symm.trans hother
  · cases haccepted.symm.trans hother
    have haccept : (s.accept profile).plain = (t.accept profile).plain :=
      congrArg (State.accept · profile) h
    obtain ⟨hstate, hdone⟩ := validateAll_plain_eq haccept (t.counter + 1)
    rw [hs, ht, hcounter]
    exact ⟨hstate, congrArg (Effect.logInfo (profileText profile) :: ·) hdone⟩

/-- What a record keeps of the end of a run without its notes is the same however the run
ended. -/
theorem record_plain_eq {b c : Batch} (h : b.plain = c.plain) (ticket : Nat) (v w : Verdict) :
    (record b ticket v).plain = (record c ticket w).plain := by
  have hended : ∀ (a : Batch) (v : Verdict), (record a ticket v).plain =
      { a.plain with pool := a.plain.pool.finish ticket none } := by
    intro a v
    cases v <;> rfl
  rw [hended, hended, h]

/-- Notes have no influence on which batch a run belongs to. -/
theorem find?_plain_eq (h : s.plain = t.plain) (id : Nat) :
    (s.batches.find? fun b => b.id = id).map Batch.plain =
      (t.batches.find? fun b => b.id = id).map Batch.plain := by
  have hfind : ∀ u : State, (u.plain.batches.find? fun b => b.id = id) =
      (u.batches.find? fun b => b.id = id).map Batch.plain := by
    intro u
    show ((u.batches.map Batch.plain).find? _) = _
    rw [List.find?_map]
    rfl
  rw [← hfind, ← hfind, h]

/-- How a run ends has no influence on what is left after it, nor on the runs that are started
then. -/
theorem finish_plain_eq (h : s.plain = t.plain) (id : Nat) (result other : RunResult) :
    (s.finish id result).1.plain = (t.finish id other).1.plain ∧
      started (s.finish id result).2 = started (t.finish id other).2 ∧
      (result = other →
        unreported (s.finish id result).2 = unreported (t.finish id other).2) := by
  have hended : (s.endRun id).plain = (t.endRun id).plain := congrArg (State.endRun · id) h
  have hverdict : ∀ run, s.verdict run result = t.verdict run result := by
    intro run
    show s.plain.verdict run result = t.plain.verdict run result
    rw [h]
  have hsingle : ∀ uri v, started (singleEffects uri v) = [] := by
    intro uri v
    cases v <;> rfl
  have hbatch : ∀ uri v, started (batchEffects uri v) = [] := by
    intro uri v
    cases v <;> rfl
  obtain ⟨-, -, -, -, -, hruns, -⟩ := State.mk.inj h
  cases hfind : t.runs.find? fun r => r.id = id with
  | none =>
      have hnone : (s.runs.find? fun r => r.id = id) = none := by rw [hruns, hfind]
      simp only [finish, hfind, hnone]
      exact ⟨h, trivial, fun _ => trivial⟩
  | some run =>
      have hsome : (s.runs.find? fun r => r.id = id) = some run := by rw [hruns, hfind]
      cases hplace : run.place with
      | none =>
          simp only [finish, hfind, hsome, hplace]
          refine ⟨hended, ?_, fun hsame => ?_⟩
          · rw [hsingle, hsingle]
          · rw [hverdict, hsame]
      | some place =>
          have hbatches := find?_plain_eq h place.batch
          cases hother : t.batches.find? fun b => b.id = place.batch with
          | none =>
              rw [hother, Option.map_none, Option.map_eq_none_iff] at hbatches
              simp only [finish, hfind, hsome, hplace, hother, hbatches]
              refine ⟨hended, ?_, fun hsame => ?_⟩
              · rw [hbatch, hbatch]
              · rw [hverdict, hsame]
          | some c =>
              rw [hother, Option.map_some, Option.map_eq_some_iff] at hbatches
              obtain ⟨b, hb, hbc⟩ := hbatches
              -- The batch goes on with another note, which is not looked at.
              obtain ⟨hstate, hdone⟩ := proceed_plain_eq hended
                (record_plain_eq hbc place.ticket (s.verdict run result) (t.verdict run other))
              simp only [finish, hfind, hsome, hplace, hother, hb]
              refine ⟨hstate, ?_, fun hsame => ?_⟩
              · rw [started_append, started_append, hbatch, hbatch, ← started_unreported,
                  ← started_unreported (State.proceed _ _).2]
                exact congrArg ([] ++ started ·) hdone
              · rw [hverdict, hsame] at hdone ⊢
                rw [unreported_append, unreported_append]
                exact congrArg
                  (unreported (batchEffects run.uri (t.verdict run other)) ++ ·) hdone

end State

/-- Notes have no influence on what is done apart from reports. -/
theorem step_plain_eq {s t : State} (h : s.plain = t.plain) (e : Event) :
    (step s e).1.plain = (step t e).1.plain ∧
      unreported (step s e).2 = unreported (step t e).2 := by
  have hinsert : ∀ uri text, (s.insert uri text).plain = (t.insert uri text).plain :=
    fun uri text => congrArg (State.insert · uri text) h
  cases e with
  | opened uri text => exact State.validateSingle_plain_eq (hinsert uri text) uri
  | changed uri text =>
      cases text with
      | none => exact ⟨h, rfl⟩
      | some text => exact State.validateSingle_plain_eq (hinsert uri text) uri
  | saved uri text =>
      cases text with
      | none => exact State.validateSingle_plain_eq h uri
      | some text => exact State.validateSingle_plain_eq (hinsert uri text) uri
  | closed uri =>
      exact ⟨congrArg (fun u : State => { u with documents := u.documents.erase uri }) h, rfl⟩
  | configured payload => exact State.configure_plain_eq h payload
  | finished id result =>
      obtain ⟨hstate, -, hdone⟩ := State.finish_plain_eq h id result result
      exact ⟨hstate, hdone rfl⟩

namespace State

variable {s t : State}

/-- What does not depend on notes in one step does not depend on them in the course of events. -/
theorem collect_plain_eq {α : Type} {f : State → Event → List α}
    (hf : ∀ s t e, s.plain = t.plain → f s e = f t e) (h : s.plain = t.plain)
    (events : List Event) : s.collect f events = t.collect f events := by
  induction events generalizing s t with
  | nil => rfl
  | cons e rest ih =>
      rw [collect_cons, collect_cons, hf s t e h, ih (step_plain_eq h e).1]

theorem unreported_effects (s : State) (events : List Event) :
    unreported (s.effects events) = s.collect (fun t e => unreported (step t e).2) events := by
  induction events generalizing s with
  | nil => rfl
  | cons e rest ih => rw [effects_cons, unreported_append, collect_cons, ih]

theorem effects_plain_eq (h : s.plain = t.plain) (events : List Event) :
    unreported (s.effects events) = unreported (t.effects events) := by
  rw [unreported_effects, unreported_effects]
  exact collect_plain_eq (fun _ _ e h => (step_plain_eq h e).2) h events

/-- The verdicts on the runs of a batch do not depend on what was noted before. -/
theorem returned_plain_eq (h : s.plain = t.plain) (batch : Nat) (events : List Event) :
    s.returned batch events = t.returned batch events := by
  refine collect_plain_eq (fun s t e h => ?_) h events
  have hplain : ∀ u : State, u.plain.returned? batch e = u.returned? batch e := by
    intro u
    cases e <;> rfl
  rw [← hplain s, ← hplain t, h]

end State

/-! ## The end of a batch -/

variable {runtime : Runtime} {machine : Machine} {events : List Event} {s : State}
  {sent : List Effect} {batch : Nat}

/-- When a batch has ended, all of its runs have. Then what was reported for it are the crashes of
its runs for the log, and to the user each of its failures once, in the order in which they first
came. How a run ends makes no difference to the rest: had it ended in another way, the same runs
would have been started then, and later the same would have been done, reports apart, and the same
verdicts returned to the batch. -/
theorem batch_reports (h : History runtime machine events s sent)
    (hstarted : batch < s.batchesStarted) (hended : ∀ b ∈ s.batches, b.id ≠ batch) :
    let verdicts := (State.initial machine).returned batch events
    (∀ r ∈ s.runs, r.task? batch = none) ∧
    (State.initial machine).reported batch events =
      (verdicts.filterMap State.Verdict.crash?).map
          (fun reason => .logError (State.crashText reason)) ++
        (verdicts.filterMap State.Verdict.failure?).eraseDups.map .showError ∧
    ∀ (t : State) id result other later,
      started (step t (.finished id other)).2 = started (step t (.finished id result)).2 ∧
      unreported ((step t (.finished id other)).1.effects later) =
        unreported ((step t (.finished id result)).1.effects later) ∧
      (step t (.finished id other)).1.returned batch later =
        (step t (.finished id result)).1.returned batch later := by
  refine ⟨h.staffed.ended_iff.mp hended, (h.reported batch).ended hstarted hended, ?_⟩
  intro t id result other later
  obtain ⟨hstate, hsame, -⟩ := State.finish_plain_eq (s := t) rfl id other result
  exact ⟨hsame, State.effects_plain_eq hstate later, State.returned_plain_eq hstate batch later⟩

/-- The state in which three documents are validated in one batch. -/
def threeState (p : Profile) : State :=
  { machine := .plain
    documents := [("a.py", ⟨0, "x"⟩), ("b.py", ⟨1, "y"⟩), ("c.py", ⟨2, "z"⟩)]
    insertions := 3
    config := ⟨1, some p⟩
    counter := 1
    runs := [⟨0, "a.py", ⟨0, "x"⟩, 1, p, some ⟨0, 0⟩⟩, ⟨1, "b.py", ⟨1, "y"⟩, 1, p, some ⟨0, 1⟩⟩,
      ⟨2, "c.py", ⟨2, "z"⟩, 1, p, some ⟨0, 2⟩⟩]
    runsStarted := 3
    batches := [⟨0, 1, ⟨3, [], [(0, "a.py"), (1, "b.py"), (2, "c.py")], 3, []⟩, .empty⟩]
    batchesStarted := 1 }

/-- Two of the linters fail in the same way and one crashes. -/
theorem batch_reports_three :
    let fault : RuntimeFault := .io "pipe closed"
    let events : List Event :=
      [.opened "a.py" "x", .opened "b.py" "y", .opened "c.py" "z", .configured shortSettings,
        .finished 1 (.failed fault), .finished 0 (.crashed "boom"), .finished 2 (.failed fault)]
    ∃ (p : Profile) (s : State) (sent : List Effect),
      History (fun _ _ _ => True) .plain events s sent ∧ 0 < s.batchesStarted ∧
      (∀ b ∈ s.batches, b.id ≠ 0) ∧
      (State.initial .plain).reported 0 events =
        [.logError (State.crashText "boom"), .showError (State.failureText p fault)] := by
  intro fault events
  obtain ⟨p, hp⟩ := exists_shortProfile
  let ends : List Event :=
    [.finished 1 (.failed fault), .finished 0 (.crashed "boom"), .finished 2 (.failed fault)]
  have hevents : History (fun _ _ _ => True) .plain events _ _ := History.start.extend events
  have hstarted : ((State.initial .plain).after
      [.opened "a.py" "x", .opened "b.py" "y", .opened "c.py" "z"]).configure shortSettings =
        (threeState p, [.logInfo (State.profileText (some p)),
          .start ⟨0, "a.py", ⟨0, "x"⟩, 1, p, some ⟨0, 0⟩⟩,
          .start ⟨1, "b.py", ⟨1, "y"⟩, 1, p, some ⟨0, 1⟩⟩,
          .start ⟨2, "c.py", ⟨2, "z"⟩, 1, p, some ⟨0, 2⟩⟩]) := by
    rcases State.configure_cases _ shortSettings with ⟨hnone, -⟩ | ⟨profile, hsome, heq⟩
    · cases hp.symm.trans hnone
    · cases hp.symm.trans hsome
      exact heq
  have hafter : (State.initial .plain).after events =
      { threeState p with runs := [], batches := [] } :=
    (congrArg (fun reaction : Reaction => reaction.1.after ends) hstarted).trans rfl
  have hreturned : (State.initial .plain).returned 0 events =
      [.failure (State.failureText p fault), .crash "boom",
        .failure (State.failureText p fault)] :=
    (congrArg (fun reaction : Reaction => reaction.1.returned 0 ends) hstarted).trans rfl
  rw [hafter] at hevents
  have hended : ∀ b ∈ { threeState p with runs := [], batches := [] }.batches, b.id ≠ 0 := by simp
  have hreports := (batch_reports hevents Nat.zero_lt_one hended).2.1
  rw [hreturned] at hreports
  refine ⟨p, _, _, hevents, Nat.zero_lt_one, hended, hreports.trans ?_⟩
  show .logError (State.crashText "boom") ::
    List.map Effect.showError
      [State.failureText p fault, State.failureText p fault].eraseDups = _
  simp [List.eraseDups_cons]

end ContainerLint.Server
