import ContainerLint.Proofs.Server.Documents
import ContainerLint.Proofs.Server.Pools
import ContainerLint.Server.Step

/-!
# What validating documents does

Each function that validates starts some runs and changes nothing else about documents, settings
and runs. `State.Validated` says what happens to one document, `Filled` what happens when a batch
starts tasks, `State.Finished` what happens when a run ends; read `State.Fresh` first, which says
what a run has in common with the state when it starts.
-/

namespace ContainerLint.Server

namespace State

/-- The state after some runs were started. -/
def begin (s : State) (runs : List Run) : State :=
  { s with runs := s.runs ++ runs, runsStarted := s.runsStarted + runs.length }

/-- The state after a run has left. -/
def endRun (s : State) (id : Nat) : State := { s with runs := s.runs.filter fun r => r.id ≠ id }

/-- A run is fresh when the document and the settings that it was started with are still those of
the state. -/
structure Fresh (s : State) (r : Run) : Prop where
  document : s.documents.lookup r.uri = some r.document
  config : s.config = ⟨r.version, some r.profile⟩

@[simp] theorem begin_nil (s : State) : s.begin [] = s := by
  simp [begin]

@[simp] theorem begin_begin (s : State) (first second : List Run) :
    (s.begin first).begin second = s.begin (first ++ second) := by
  simp [begin, Nat.add_assoc]

@[simp] theorem fresh_begin {s : State} {runs : List Run} {r : Run} :
    (s.begin runs).Fresh r ↔ s.Fresh r :=
  ⟨fun h => ⟨h.document, h.config⟩, fun h => ⟨h.document, h.config⟩⟩

/-- The result of a fresh run counts. -/
theorem Fresh.counts {s : State} {r : Run} (h : s.Fresh r)
    (hversion : s.config.version = s.counter) :
    s.counts r.uri r.version r.document.insertion = true := by
  have hcounter : s.counter = r.version := by rw [← hversion, h.config]
  simp [State.counts, h.document, hcounter]

/-! ## One document -/

/-- What validating a document can come to: nothing, if it is not open or the batch is out of
date; clearing it, if there is no profile; or a fresh run. -/
inductive Validated (s : State) (uri : String) (expected : Option Nat)
    (place : Option BatchPlace) : Reaction × Bool → Prop
  | skipped
      (h : ∀ d, s.documents.lookup uri = some d →
        ∃ version, expected = some version ∧ version ≠ s.config.version) :
      Validated s uri expected place ((s, []), false)
  | cleared (d : Document) (hopen : s.documents.lookup uri = some d)
      (hprofile : s.config.profile = none)
      (hexpected : ∀ version, expected = some version → version = s.config.version) :
      Validated s uri expected place ((s, [.publish uri []]), false)
  | started (run : Run) (hfresh : s.Fresh run) (huri : run.uri = uri)
      (hid : run.id = s.runsStarted) (hplace : run.place = place)
      (hexpected : ∀ version, expected = some version → version = s.config.version) :
      Validated s uri expected place ((s.begin [run], [.start run]), true)

/-- `validate` does one of these things. -/
theorem validate_validated (s : State) (hversion : s.config.version = s.counter) (uri : String)
    (expected : Option Nat) (place : Option BatchPlace) :
    s.Validated uri expected place (s.validate uri expected place) := by
  simp only [validate]
  cases hopen : s.documents.lookup uri with
  | none => exact .skipped (by simp [hopen])
  | some d =>
      by_cases hold : expected.any (· ≠ s.config.version) = true
      · simp only [hold, if_true]
        obtain ⟨version, hsome, hne⟩ := (Option.any_eq_true ..).mp hold
        exact .skipped fun _ _ => ⟨version, hsome, by simpa using hne⟩
      · simp only [hold]
        have hexpected : ∀ version, expected = some version → version = s.config.version := by
          rintro version rfl
          simpa using hold
        cases hprofile : s.config.profile with
        | none =>
            have hcounts : s.counts uri s.config.version d.insertion = true := by
              simp [counts, hopen, hversion]
            simp only [hcounts, if_true]
            exact .cleared d hopen hprofile hexpected
        | some p =>
            refine .started ⟨s.runsStarted, uri, d, s.config.version, p, place⟩ ⟨hopen, ?_⟩
              rfl rfl rfl hexpected
            exact congrArg (ActiveConfig.mk s.config.version) hprofile

/-- What validating a document by itself can come to: nothing, if it is not open; clearing it, if
there is no profile; or starting a run that belongs to no batch. -/
inductive ValidatedSingle (s : State) (uri : String) : Reaction → Prop
  | unopened (h : s.documents.lookup uri = none) : ValidatedSingle s uri (s, [])
  | cleared (d : Document) (hopen : s.documents.lookup uri = some d)
      (hprofile : s.config.profile = none) : ValidatedSingle s uri (s, [.publish uri []])
  | started (run : Run) (hfresh : s.Fresh run) (huri : run.uri = uri)
      (hid : run.id = s.runsStarted) (hplace : run.place = none) :
      ValidatedSingle s uri (s.begin [run], [.start run])

theorem validateSingle_validated (s : State) (hversion : s.config.version = s.counter)
    (uri : String) : s.ValidatedSingle uri (s.validateSingle uri) := by
  have hvalidated := s.validate_validated hversion uri none none
  unfold validateSingle
  generalize s.validate uri none none = result at hvalidated
  cases hvalidated with
  | skipped hskip =>
      refine .unopened (Option.eq_none_iff_forall_ne_some.mpr fun d hopen => ?_)
      obtain ⟨version, hnone, -⟩ := hskip d hopen
      cases hnone
  | cleared d hopen hprofile => exact .cleared d hopen hprofile
  | started run hfresh huri hid hplace => exact .started run hfresh huri hid hplace

/-! ## The tasks of a batch -/

/-- What a batch does when it starts tasks: it takes some documents from the front of those that
wait, starts new runs for them and leaves the rest as it is. -/
structure Filled (s : State) (b : Batch) (taken : List String) (new : List Run) (c : Batch)
    (sent : List Effect) : Prop where
  same : c = { b with pool := c.pool }
  waiting : b.pool.waiting = taken ++ c.pool.waiting
  crashes : c.pool.crashes = b.pool.crashes
  ids : new.map Run.id = List.range' s.runsStarted new.length
  fresh : ∀ r ∈ new, s.Fresh r
  started : ∀ r ∈ new, Effect.start r ∈ sent
  sent_cases : ∀ e ∈ sent, (∃ r ∈ new, e = .start r) ∨
    (b.version = s.config.version ∧ s.config.profile = none ∧
      ∃ uri d, s.documents.lookup uri = some d ∧ e = .publish uri [])
  cover : b.version = s.config.version → ∀ uri ∈ taken, ∀ d, s.documents.lookup uri = some d →
    (∃ r ∈ new, r.uri = uri) ∨ .publish uri [] ∈ sent

namespace Filled

variable {s : State} {b c : Batch} {taken : List String} {new : List Run} {sent : List Effect}

/-- Nothing is started. -/
theorem nothing (s : State) (b : Batch) : s.Filled b [] [] b [] :=
  ⟨rfl, rfl, rfl, rfl, by simp, by simp, by simp, by simp⟩

theorem id_eq (h : s.Filled b taken new c sent) : c.id = b.id := by rw [h.same]

theorem version_eq (h : s.Filled b taken new c sent) : c.version = b.version := by rw [h.same]

/-- The task for one document is started, which starts the runs `first`, and then other tasks. -/
theorem task (first : List Run) (done : List Effect) {pool : Pool String} {uri : String}
    {more : List Effect}
    (hrest : (s.begin first).Filled { b with pool } taken new c more)
    (hwaiting : b.pool.waiting = uri :: pool.waiting) (hcrashes : pool.crashes = b.pool.crashes)
    (hids : first.map Run.id = List.range' s.runsStarted first.length)
    (hfresh : ∀ r ∈ first, s.Fresh r) (hstarted : ∀ r ∈ first, Effect.start r ∈ done)
    (hdone : ∀ e ∈ done, (∃ r ∈ first, e = .start r) ∨
      (b.version = s.config.version ∧ s.config.profile = none ∧
        ∃ uri d, s.documents.lookup uri = some d ∧ e = .publish uri []))
    (hcover : b.version = s.config.version → ∀ d, s.documents.lookup uri = some d →
      (∃ r ∈ first, r.uri = uri) ∨ .publish uri [] ∈ done) :
    s.Filled b (uri :: taken) (first ++ new) c (done ++ more) where
  same := hrest.same
  waiting := by rw [hwaiting, hrest.waiting, List.cons_append]
  crashes := hrest.crashes.trans hcrashes
  ids := by
    rw [List.map_append, hids, hrest.ids, List.length_append, ← List.range'_append_1]
    rfl
  fresh r hr := by
    rcases List.mem_append.mp hr with hr | hr
    · exact hfresh r hr
    · exact fresh_begin.mp (hrest.fresh r hr)
  started r hr := by
    rcases List.mem_append.mp hr with hr | hr
    · exact List.mem_append_left _ (hstarted r hr)
    · exact List.mem_append_right _ (hrest.started r hr)
  sent_cases e he := by
    rcases List.mem_append.mp he with he | he
    · rcases hdone e he with ⟨r, hr, rfl⟩ | hclear
      · exact .inl ⟨r, List.mem_append_left _ hr, rfl⟩
      · exact .inr hclear
    · rcases hrest.sent_cases e he with ⟨r, hr, rfl⟩ | hclear
      · exact .inl ⟨r, List.mem_append_right _ hr, rfl⟩
      · exact .inr hclear
  cover hversion name hname d hd := by
    rcases List.mem_cons.mp hname with rfl | hname
    · rcases hcover hversion d hd with ⟨r, hr, huri⟩ | hclear
      · exact .inl ⟨r, List.mem_append_left _ hr, huri⟩
      · exact .inr (List.mem_append_left _ hclear)
    · rcases hrest.cover hversion name hname d hd with ⟨r, hr, huri⟩ | hclear
      · exact .inl ⟨r, List.mem_append_right _ hr, huri⟩
      · exact .inr (List.mem_append_right _ hclear)

end Filled

/-- `fill` starts tasks and does nothing else. -/
theorem fill_filled (fuel : Nat) (s : State) (b : Batch)
    (hversion : s.config.version = s.counter) :
    ∃ taken new c sent, s.fill fuel b = (s.begin new, c, sent) ∧
      s.Filled b taken new c sent := by
  induction fuel generalizing s b with
  | zero => exact ⟨[], [], b, [], by simp [fill], .nothing s b⟩
  | succ fuel ih =>
      cases hstart : b.pool.start? with
      | none => exact ⟨[], [], b, [], by simp [fill, hstart], .nothing s b⟩
      | some task =>
          obtain ⟨pool, ticket, uri⟩ := task
          obtain ⟨hwaiting, -, hnext⟩ := Pool.start_eq_some hstart
          have hcrashes : pool.crashes = b.pool.crashes := by rw [hnext]
          have hvalidated :=
            s.validate_validated hversion uri (some b.version) (some ⟨b.id, ticket⟩)
          -- A task without a run has ended at once, so its crash is none.
          have hended : (pool.finish ticket none).crashes = b.pool.crashes := by
            simp [Pool.finish, hcrashes]
          generalize hresult : s.validate uri (some b.version) (some ⟨b.id, ticket⟩) = result
            at hvalidated
          cases hvalidated with
          | skipped hskip =>
              obtain ⟨taken, new, c, sent, hfill, hfilled⟩ :=
                ih s { b with pool := pool.finish ticket none } hversion
              refine ⟨uri :: taken, new, c, sent, by simp [fill, hstart, hresult, hfill], ?_⟩
              rw [← s.begin_nil] at hfilled
              refine .task [] [] hfilled hwaiting hended rfl (by simp) (by simp) (by simp)
                fun hcurrent d hd => ?_
              -- An open document is passed over only if newer settings came.
              obtain ⟨version, hsome, hne⟩ := hskip d hd
              exact absurd (Option.some.inj hsome ▸ hcurrent) hne
          | cleared d hopen hprofile hexpected =>
              obtain ⟨taken, new, c, sent, hfill, hfilled⟩ :=
                ih s { b with pool := pool.finish ticket none } hversion
              refine ⟨uri :: taken, new, c, .publish uri [] :: sent,
                by simp [fill, hstart, hresult, hfill], ?_⟩
              rw [← s.begin_nil] at hfilled
              exact .task [] [.publish uri []] hfilled hwaiting hended rfl (by simp) (by simp)
                (by simp [hprofile, hexpected b.version rfl, hopen]) (by simp)
          | started run hfresh huri hid hplace hexpected =>
              obtain ⟨taken, new, c, sent, hfill, hfilled⟩ :=
                ih (s.begin [run]) { b with pool } hversion
              refine ⟨uri :: taken, run :: new, c, .start run :: sent,
                by simp [fill, hstart, hresult, hfill], ?_⟩
              exact .task [run] [.start run] hfilled hwaiting hcrashes (by simp [hid])
                (by simpa using hfresh) (by simp) (by simp) (by simp [huri])

/-- Without a profile every document that waits is dealt with at once. -/
theorem fill_isDone (fuel : Nat) (s : State) (b : Batch) (hversion : s.config.version = s.counter)
    (hprofile : s.config.profile = none) (hrunning : b.pool.running = [])
    (hlimit : 0 < b.pool.limit) (hfuel : b.pool.waiting.length < fuel) :
    (s.fill fuel b).2.1.pool.isDone = true := by
  induction fuel generalizing b with
  | zero => omega
  | succ fuel ih =>
      cases hwaiting : b.pool.waiting with
      | nil => simp [fill, Pool.start?, hrunning, hlimit, hwaiting, Pool.isDone]
      | cons uri rest =>
          have hvalidated := s.validate_validated hversion uri (some b.version)
            (some ⟨b.id, b.pool.started⟩)
          have hmore := ih
            { b with
              pool := ({ b.pool with
                waiting := rest
                running := [(b.pool.started, uri)]
                started := b.pool.started + 1 } : Pool String).finish b.pool.started none }
            (by simp [Pool.finish]) hlimit
            (by simp only [Pool.finish]; simp only [hwaiting, List.length_cons] at hfuel; omega)
          generalize hresult :
            s.validate uri (some b.version) (some ⟨b.id, b.pool.started⟩) = result at hvalidated
          cases hvalidated with
          | skipped | cleared =>
              simpa [fill, Pool.start?, hrunning, hlimit, hwaiting, hresult] using hmore
          | started run hfresh => simp [hfresh.config] at hprofile

/-- Going on with a batch starts tasks, and then drops the batch or puts it back. -/
theorem proceed_filled (s : State) (b : Batch) (hversion : s.config.version = s.counter) :
    ∃ taken new c sent, s.Filled b taken new c sent ∧
      c = (s.fill (b.pool.waiting.length + 1) b).2.1 ∧
      s.proceed b =
        if c.pool.isDone then ((s.begin new).dropBatch c, sent ++ closing c)
        else ((s.begin new).storeBatch c, sent) := by
  obtain ⟨taken, new, c, sent, hfill, hfilled⟩ :=
    s.fill_filled (b.pool.waiting.length + 1) b hversion
  exact ⟨taken, new, c, sent, hfilled, by rw [hfill], by simp [proceed, hfill]⟩

/-- At the end of a batch nothing is published. -/
theorem publish_not_mem_closing (b : Batch) (uri : String) (ds : List EditorDiagnostic) :
    Effect.publish uri ds ∉ closing b := by
  simp [closing]

/-! ## The end of a run -/

/-- Diagnostics come of a run only if its result counts and docker reported no fault. -/
theorem verdict_publish {s : State} {run : Run} {result : RunResult} {ds : List EditorDiagnostic}
    (h : s.verdict run result = .publish ds) :
    s.counts run.uri run.version run.document.insertion = true ∧
      ∃ o, result = .outcome o ∧ o.daemonError = none ∧
        ds = EditorDiagnostic.ofDiagnostics run.profile.linter.name o.diagnostics := by
  cases result with
  | crashed | failed => simp [verdict] at h
  | outcome o =>
      simp only [verdict] at h
      split at h
      · rename_i hcounts
        split at h
        · cases h
        · rename_i hdaemon
          cases h
          exact ⟨hcounts, o, rfl, hdaemon, rfl⟩
      · cases h

/-- What a verdict publishes, for a document alone or in a batch. -/
theorem publish_mem_verdict {uri name : String} {v : Verdict} {ds : List EditorDiagnostic}
    (h : Effect.publish name ds ∈ singleEffects uri v ∨ .publish name ds ∈ batchEffects uri v) :
    name = uri ∧ v = .publish ds := by
  cases v <;> simp_all [singleEffects, batchEffects]

/-- What the end of a run can come to: nothing, if there is no such run; or what its verdict asks
for, after which the batch that it belongs to goes on. -/
inductive Finished (s : State) (id : Nat) (result : RunResult) : Reaction → Prop
  | unknown (h : ∀ r ∈ s.runs, r.id ≠ id) : Finished s id result (s, [])
  | alone (run : Run) (hmem : run ∈ s.runs) (hid : run.id = id) (hplace : run.place = none) :
      Finished s id result (s.endRun id, singleEffects run.uri (s.verdict run result))
  | stray (run : Run) (hmem : run ∈ s.runs) (hid : run.id = id) (place : BatchPlace)
      (hplace : run.place = some place) (hbatch : ∀ b ∈ s.batches, b.id ≠ place.batch) :
      Finished s id result (s.endRun id, batchEffects run.uri (s.verdict run result))
  | batched (run : Run) (hmem : run ∈ s.runs) (hid : run.id = id) (place : BatchPlace)
      (hplace : run.place = some place) (b : Batch) (hb : b ∈ s.batches)
      (hbatch : b.id = place.batch) {t : State} {done : List Effect}
      (hproceed : (s.endRun id).proceed (record b place.ticket (s.verdict run result)) =
        (t, done)) :
      Finished s id result (t, batchEffects run.uri (s.verdict run result) ++ done)

/-- `finish` does one of these things. -/
theorem finish_finished (s : State) (id : Nat) (result : RunResult) :
    s.Finished id result (s.finish id result) := by
  cases hfind : s.runs.find? fun r => r.id = id with
  | none =>
      simp only [finish, hfind]
      exact .unknown (by simpa using hfind)
  | some run =>
      have hmem := List.mem_of_find?_eq_some hfind
      have hid : run.id = id := by simpa using List.find?_some hfind
      cases hplace : run.place with
      | none =>
          simp only [finish, hfind, hplace]
          exact .alone run hmem hid hplace
      | some place =>
          cases hbatch : s.batches.find? fun b => b.id = place.batch with
          | none =>
              simp only [finish, hfind, hplace, hbatch]
              exact .stray run hmem hid place hplace (by simpa using hbatch)
          | some b =>
              simp only [finish, hfind, hplace, hbatch]
              exact .batched run hmem hid place hplace b (List.mem_of_find?_eq_some hbatch)
                (by simpa using List.find?_some hbatch) rfl

end State

end ContainerLint.Server
