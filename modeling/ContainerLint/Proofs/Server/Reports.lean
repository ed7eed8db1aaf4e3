import ContainerLint.Proofs.Server.Notes
import ContainerLint.Proofs.Server.Replay

/-!
# What a batch reports

A batch is opened when settings are accepted, and goes on as its runs end. The verdicts on its
runs are collected along a history (`State.returned`), and so are the failures that it reports
(`State.reported`). While the batch goes on it reports nothing and keeps notes on the verdicts;
when it has ended, its notes have been reported (`Reported`, kept by every step in
`step_reported`).
-/

namespace ContainerLint.Server

namespace State

/-- The verdict on a run of a batch that ends. -/
def returned? (batch : Nat) (s : State) : Event → Option Verdict
  | .finished id result =>
    (s.runs.find? fun r => r.id = id).bind fun run =>
      (run.task? batch).map fun _ => s.verdict run result
  | _ => none

/-- The event concerns a batch: it opens the batch, or it is the end of one of its runs. -/
def concerns (batch : Nat) (s : State) (e : Event) : Bool :=
  (e.accepted?.isSome && s.batchesStarted == batch) || (s.returned? batch e).isSome

/-- What is reported for a batch in a step. -/
def reportsFor (batch : Nat) (s : State) (e : Event) : List Effect :=
  if s.concerns batch e then reports (step s e).2 else []

/-- The verdicts on the runs of a batch in the course of some events, in order. -/
def returned (batch : Nat) (s : State) (events : List Event) : List Verdict :=
  s.collect (fun t e => (t.returned? batch e).toList) events

/-- What is reported for a batch in the course of some events. -/
def reported (batch : Nat) (s : State) (events : List Event) : List Effect :=
  s.collect (fun t e => t.reportsFor batch e) events

/-- Where a batch stands when its runs had some verdicts and something was reported for it. It is
yet to be opened; it goes on, has noted the verdicts and reported nothing; or it has ended, and
reported its notes. -/
structure Reported (batch : Nat) (s : State) (verdicts : List Verdict) (told : List Effect) :
    Prop where
  ahead : s.batchesStarted ≤ batch → verdicts = [] ∧ told = []
  going : ∀ b ∈ s.batches, b.id = batch → b.notes = notesOf verdicts ∧ told = []
  ended : batch < s.batchesStarted → (∀ b ∈ s.batches, b.id ≠ batch) →
    told = (notesOf verdicts).told

variable {s t : State} {batch : Nat} {verdicts : List Verdict} {told : List Effect}

theorem reported_initial (machine : Machine) (batch : Nat) :
    (State.initial machine).Reported batch [] [] :=
  ⟨fun _ => ⟨rfl, rfl⟩, by simp [initial], fun h => absurd h (Nat.not_lt_zero _)⟩

/-- A batch stays where it stands when only other batches change. -/
theorem Reported.of_others (h : s.Reported batch verdicts told)
    (hstarted : batch < t.batchesStarted ↔ batch < s.batchesStarted)
    (hsame : ∀ b, b.id = batch → (b ∈ t.batches ↔ b ∈ s.batches)) :
    t.Reported batch verdicts told where
  ahead hle := h.ahead (Nat.le_of_not_lt (mt hstarted.mpr (Nat.not_lt_of_le hle)))
  going b hb hid := h.going b ((hsame b hid).mp hb) hid
  ended hlt hnone := h.ended (hstarted.mp hlt) fun b hb hid => hnone b ((hsame b hid).mpr hb) hid

/-- Going on with a batch opens no batch. -/
theorem batchesStarted_proceed (s : State) (hversion : s.config.version = s.counter) (b : Batch) :
    (s.proceed b).1.batchesStarted = s.batchesStarted := by
  obtain ⟨taken, new, c, sent, -, -, hproceed⟩ := s.proceed_filled b hversion
  rw [hproceed]
  split <;> rfl

/-- Going on with one batch does not matter to another. -/
theorem Reported.proceed_other (h : s.Reported batch verdicts told)
    (hversion : s.config.version = s.counter) {b : Batch} (hne : b.id ≠ batch) :
    (s.proceed b).1.Reported batch verdicts told := by
  refine h.of_others (by rw [s.batchesStarted_proceed hversion]) fun c hid => ⟨fun hc => ?_, ?_⟩
  · rcases mem_batches_proceed hversion hc with ⟨hcid, -⟩ | ⟨-, hold⟩
    · exact absurd (hcid.symm.trans hid) hne
    · exact hold
  · exact fun hc => mem_batches_proceed_of_ne hversion hc fun hcid => hne (hcid.symm.trans hid)

/-- A batch that goes on with its notes keeps them, or ends and reports them. -/
theorem reported_proceed (hversion : s.config.version = s.counter) {b : Batch}
    (hmem : ∃ a ∈ s.batches, a.id = b.id) (hstarted : b.id < s.batchesStarted)
    (hnotes : b.notes = notesOf verdicts) :
    (s.proceed b).1.Reported b.id verdicts (reports (s.proceed b).2) where
  ahead hle := by
    rw [s.batchesStarted_proceed hversion] at hle
    omega
  going c hc hid := by
    rcases reports_proceed hversion hmem with ⟨-, hnone⟩ | ⟨hgone, -⟩
    · rcases mem_batches_proceed hversion hc with ⟨-, hsame⟩ | ⟨hne, -⟩
      · exact ⟨hsame.trans hnotes, hnone⟩
      · exact absurd hid hne
    · exact absurd hid (hgone c hc)
  ended _ hnone := by
    rcases reports_proceed hversion hmem with ⟨⟨c, hc, hid⟩, -⟩ | ⟨-, htold⟩
    · exact absurd hid (hnone c hc)
    · rw [htold, hnotes]

/-! ## Steps -/

theorem batches_validateSingle (s : State) (hversion : s.config.version = s.counter)
    (uri : String) : (s.validateSingle uri).1.batches = s.batches ∧
      (s.validateSingle uri).1.batchesStarted = s.batchesStarted := by
  have hvalidated := s.validateSingle_validated hversion uri
  generalize s.validateSingle uri = reaction at hvalidated
  cases hvalidated with
  | unopened | cleared | started => exact ⟨rfl, rfl⟩

/-- Only runs return verdicts. -/
theorem returned?_message {e : Event} (he : ∀ id result, e ≠ .finished id result) :
    s.returned? batch e = none := by
  cases e with
  | finished id result => exact absurd rfl (he id result)
  | opened | changed | saved | closed | configured => rfl

/-- The verdict on a run is returned to the batch that it belongs to. -/
theorem returned?_finished (batch : Nat) (hs : s.Sound) {run : Run} (hrun : run ∈ s.runs)
    (result : RunResult) :
    s.returned? batch (.finished run.id result) =
      (run.task? batch).map fun _ => s.verdict run result := by
  have hfind : (s.runs.find? fun r => r.id = run.id) = some run := by
    cases hfound : s.runs.find? fun r => r.id = run.id with
    | none => exact absurd (decide_eq_true rfl) (List.find?_eq_none.mp hfound run hrun)
    | some r =>
        have hid : r.id = run.id := by simpa using List.find?_some hfound
        rw [hs.runs.eq_of_id (List.mem_of_find?_eq_some hfound) hrun hid]
  simp only [returned?, hfind, Option.bind_some]

/-- Nothing is added for a batch that a step does not concern. -/
theorem Reported.unconcerned {e : Event} (h : t.Reported batch verdicts told)
    (haccepted : e.accepted? = none ∨ s.batchesStarted ≠ batch)
    (hreturned : s.returned? batch e = none) :
    t.Reported batch (verdicts ++ (s.returned? batch e).toList)
      (told ++ s.reportsFor batch e) := by
  have hnone : s.concerns batch e = false := by
    rcases haccepted with haccepted | hne
    · simp [concerns, haccepted, hreturned]
    · simp [concerns, hne, hreturned]
  simpa [reportsFor, hnone, hreturned] using h

/-- A batch that is opened goes on without notes. -/
theorem Reported.validateAll (h : s.Reported batch verdicts told)
    (hversion : s.config.version = s.counter) (hbatch : s.batchesStarted = batch) :
    (s.validateAll s.config.version).1.Reported batch verdicts
      (told ++ reports (s.validateAll s.config.version).2) := by
  rw [validateAll_eq]
  cases s.documents.isEmpty with
  | true =>
      show s.Reported batch verdicts (told ++ [])
      rw [List.append_nil]
      exact h
  | false =>
      subst hbatch
      obtain ⟨rfl, rfl⟩ := h.ahead (Nat.le_refl _)
      exact reported_proceed (s := s.openBatch) (b := s.wholeBatch) hversion
        ⟨_, s.wholeBatch_mem, rfl⟩ (Nat.lt_succ_self _) rfl

/-- Opening a batch does not matter to another. -/
theorem Reported.validateAll_other (h : s.Reported batch verdicts told)
    (hversion : s.config.version = s.counter) (hne : s.batchesStarted ≠ batch) :
    (s.validateAll s.config.version).1.Reported batch verdicts told := by
  rw [validateAll_eq]
  split
  · exact h
  · refine Reported.proceed_other (s := s.openBatch) ?_ hversion hne
    refine h.of_others ?_ fun b hid => ?_
    · show batch < s.batchesStarted + 1 ↔ batch < s.batchesStarted
      omega
    · have hother : b ≠ s.wholeBatch := by
        rintro rfl
        exact hne hid
      simp [openBatch, hother]

theorem Reported.finish (h : s.Reported batch verdicts told) (hs : s.Sound)
    (hstaffed : s.Staffed) (id : Nat) (result : RunResult) :
    (s.finish id result).1.Reported batch
      (verdicts ++ (s.returned? batch (.finished id result)).toList)
      (told ++ s.reportsFor batch (.finished id result)) := by
  have hfinished := s.finish_finished id result
  generalize hreaction : s.finish id result = reaction at hfinished
  have hended : (s.endRun id).Reported batch verdicts told :=
    h.of_others Iff.rfl fun _ _ => Iff.rfl
  cases hfinished with
  | unknown hnone =>
      have hfind : (s.runs.find? fun r => r.id = id) = none := by simpa using hnone
      exact h.unconcerned (.inl rfl) (by simp [returned?, hfind])
  | alone run hmem hid hplace =>
      subst hid
      refine hended.unconcerned (.inl rfl) ?_
      rw [returned?_finished batch hs hmem]
      simp [Run.task?, hplace]
  | stray run hmem hid place hplace hbatch =>
      obtain ⟨b, hb, hbid⟩ := hstaffed.home run hmem place hplace
      exact absurd hbid (hbatch b hb)
  | @batched run hmem hid place hplace b hb hbatch u done hproceed =>
      subst hid
      obtain ⟨hrid, -, -⟩ := record_same b place.ticket (s.verdict run result)
      have hreturned := returned?_finished batch hs hmem result
      by_cases hown : b.id = batch
      · -- The batch takes note of the verdict, and goes on with it or reports it.
        subst hown
        obtain ⟨hnotes, rfl⟩ := h.going b hb rfl
        have htask : run.task? b.id = some (place.ticket, run.uri) := by
          rw [hbatch]
          exact Run.task?_of_place hplace
        rw [htask] at hreturned
        have hgoes := reported_proceed (s := s.endRun run.id) hs.version ⟨b, hb, hrid.symm⟩
          (hrid ▸ hs.batches.id_lt b hb) (notes_record hnotes place.ticket (s.verdict run result))
        rw [hproceed, hrid] at hgoes
        have hconcerns : s.concerns b.id (.finished run.id result) = true := by
          simp [concerns, hreturned]
        have htold : s.reportsFor b.id (.finished run.id result) = reports done := by
          rw [reportsFor, hconcerns]
          show reports (s.finish run.id result).2 = reports done
          rw [hreaction, reports_append, reports_batchEffects, List.nil_append]
        rw [hreturned, htold]
        exact hgoes
      · -- Another batch goes on.
        have htask : run.task? batch = none := by
          simp [Run.task?, hplace, ← hbatch, hown]
        rw [htask] at hreturned
        have hgoes := Reported.proceed_other (s := s.endRun run.id)
          (b := record b place.ticket (s.verdict run result)) hended hs.version
          (fun heq => hown (hrid.symm.trans heq))
        rw [hproceed] at hgoes
        exact hgoes.unconcerned (.inl rfl) hreturned

/-- Every step takes a batch on. -/
theorem step_reported (h : s.Reported batch verdicts told) (hs : s.Sound)
    (hstaffed : s.Staffed) (e : Event) :
    (step s e).1.Reported batch (verdicts ++ (s.returned? batch e).toList)
      (told ++ s.reportsFor batch e) := by
  have hstepped := step_stepped s e
  generalize hreaction : step s e = reaction at hstepped
  cases hstepped with
  | idle _ haccepted hended => exact h.unconcerned (.inl haccepted) (returned?_message hended)
  | single _ uri haccepted hended _ _ hbatches hstarted =>
      obtain ⟨hsame, hcount⟩ :=
        (s.noted e).batches_validateSingle (hs.noted e).version uri
      refine Reported.unconcerned ?_ (.inl haccepted) (returned?_message hended)
      refine h.of_others (by rw [hcount, hstarted]) fun b _ => ?_
      rw [hsame, hbatches]
  | closed uri =>
      exact Reported.unconcerned (h.of_others Iff.rfl fun _ _ => Iff.rfl) (.inl rfl) rfl
  | refused payload text haccepted => exact h.unconcerned (.inl haccepted) rfl
  | accepted payload profile haccepted =>
      have haccept : (s.accept profile).Reported batch verdicts told :=
        h.of_others Iff.rfl fun _ _ => Iff.rfl
      by_cases hbatch : s.batchesStarted = batch
      · have hall := haccept.validateAll rfl hbatch
        have hconcerns : s.concerns batch (.configured payload) = true := by
          simp [concerns, Event.accepted?, haccepted, hbatch]
        rw [reportsFor, hconcerns, hreaction]
        simpa [returned?, reports, Effect.isReport] using hall
      · exact (haccept.validateAll_other rfl hbatch).unconcerned (.inr hbatch) rfl
  | finished id result => exact h.finish hs hstaffed id result

end State

variable {runtime : Runtime} {machine : Machine} {events : List Event} {s : State}
  {sent : List Effect}

/-- Where a batch stands in a history. -/
theorem History.reported (h : History runtime machine events s sent) (batch : Nat) :
    s.Reported batch ((State.initial machine).returned batch events)
      ((State.initial machine).reported batch events) := by
  induction h with
  | start => exact State.reported_initial machine batch
  | @step events s sent e h hadmits ih =>
      have hstep := State.step_reported ih h.sound h.staffed e
      simp only [State.returned, State.reported, State.collect_append, ← h.eq_after,
        State.collect_cons, State.collect_nil, List.append_nil] at hstep ⊢
      exact hstep

end ContainerLint.Server
