import ContainerLint.Proofs.Server.Freshness
import ContainerLint.Proofs.Server.Notes
import ContainerLint.Proofs.Server.Replay
import ContainerLint.Proofs.Server.Starting

/-!
# Runs that have gone stale

A run goes stale when its document is closed or put in anew, or when new settings come into force,
and it stays so (`History.not_fresh`). When such a run ends nothing is published. A failure of the
linter is told all the same, at once or at the end of its batch, and that is the only way in which
a stale run shows: `silent_iff`.
-/

namespace ContainerLint.Server

/-- A run was started in the course of some events, and since then its document was closed or put
in anew, or new settings came into force. -/
def Superseded (runtime : Runtime) (machine : Machine) (events : List Event) (run : Run) : Prop :=
  ∃ before e after t sent, events = before ++ e :: after ∧
    History runtime machine before t sent ∧ Effect.start run ∈ (step t e).2 ∧
    ∃ a ∈ after, a.Replaces run.uri ∨ a.Reconfigures

/-- The batch that a run belongs to has noted a failure. -/
def State.NotedBy (s : State) (run : Run) (message : String) : Prop :=
  ∃ b ∈ s.batches, (∃ ticket, run.place = some ⟨b.id, ticket⟩) ∧ message ∈ b.failures.messages

/-- A run that ends tells the editor nothing: nothing is published, no error is shown but what its
batch had noted before, and no batch notes a failure for later. -/
structure State.Silent (s : State) (run : Run) (result : RunResult) : Prop where
  unpublished : ∀ uri ds, Effect.publish uri ds ∉ (step s (.finished run.id result)).2
  unshown : ∀ text, .showError text ∈ (step s (.finished run.id result)).2 → s.NotedBy run text
  unnoted : ∀ c ∈ (step s (.finished run.id result)).1.batches,
    ∃ b ∈ s.batches, b.id = c.id ∧ b.failures.messages = c.failures.messages

variable {runtime : Runtime} {machine : Machine} {events : List Event} {s : State}
  {sent : List Effect} {run : Run} {result : RunResult}

/-! ## Staleness lasts -/

/-- Insertion numbers and versions only grow. -/
theorem State.noted_grows (hs : s.Sound) (e : Event) :
    s.insertions ≤ (s.noted e).insertions ∧ s.config.version ≤ (s.noted e).config.version := by
  cases e with
  | opened uri text => exact ⟨Nat.le_succ _, Nat.le_refl _⟩
  | changed uri text | saved uri text =>
      cases text with
      | none => exact ⟨Nat.le_refl _, Nat.le_refl _⟩
      | some text => exact ⟨Nat.le_succ _, Nat.le_refl _⟩
  | closed uri => exact ⟨Nat.le_refl _, Nat.le_refl _⟩
  | configured payload =>
      simp only [State.noted]
      split
      · exact ⟨Nat.le_refl _, Nat.le_trans (Nat.le_of_eq hs.version) (Nat.le_succ _)⟩
      · exact ⟨Nat.le_refl _, Nat.le_refl _⟩
  | finished id result => exact ⟨Nat.le_refl _, Nat.le_refl _⟩

/-- A run that is fresh after some events was not superseded by any of them. -/
theorem State.Fresh.unreplaced (hs : s.Sound) (hinsertion : run.document.insertion < s.insertions)
    (hversion : run.version ≤ s.config.version) (h : (s.after events).Fresh run) :
    s.Fresh run ∧ ∀ a ∈ events, ¬ a.Replaces run.uri ∧ ¬ a.Reconfigures := by
  induction events generalizing s with
  | nil => exact ⟨h, by simp⟩
  | cons e rest ih =>
      have hworks := step_works hs e
      obtain ⟨hinsertions, hversions⟩ := State.noted_grows hs e
      obtain ⟨hfresh, hrest⟩ := ih (step_sound hs e)
        (hworks.insertions ▸ Nat.lt_of_lt_of_le hinsertion hinsertions)
        (hworks.config ▸ Nat.le_trans hversion hversions) h
      obtain ⟨hbefore, hkept⟩ := (hworks.fresh_iff.mp hfresh).of_noted hs hinsertion hversion
      refine ⟨hbefore, fun a ha => ?_⟩
      rcases List.mem_cons.mp ha with rfl | ha
      · exact hkept
      · exact hrest a ha

/-- A run that was superseded is not fresh. -/
theorem History.not_fresh (h : History runtime machine events s sent)
    (hstale : Superseded runtime machine events run) : ¬ s.Fresh run := by
  intro hfresh
  obtain ⟨before, e, after, t, done, rfl, ht, hstart, a, ha, hreplaced⟩ := hstale
  have hsound := step_sound ht.sound e
  have hstarted := step_start ht.sound hstart
  rw [h.eq_after, State.after_append, ← ht.eq_after] at hfresh
  have hversion : run.version ≤ (Server.step t e).1.config.version :=
    Nat.le_of_eq (congrArg ActiveConfig.version hstarted.config).symm
  obtain ⟨-, hkept⟩ := State.Fresh.unreplaced hsound
    (hsound.runs.document_lt _ _ hstarted.document) hversion hfresh
  exact hreplaced.elim (hkept a ha).1 (hkept a ha).2

/-! ## What a stale run tells -/

namespace State

/-- The verdict on a stale run is a failure only if the linter failed. -/
theorem failure?_verdict_of_stale (hs : s.Sound) (hrun : run ∈ s.runs) (hstale : ¬ s.Fresh run)
    {message : String} :
    (s.verdict run result).failure? = some message ↔
      ∃ fault, result = .failed fault ∧ message = failureText run.profile fault := by
  cases result with
  | crashed reason => simp [verdict, Verdict.failure?]
  | failed fault => simp [verdict, Verdict.failure?, eq_comm]
  | outcome o =>
      have hcounts : s.counts run.uri run.version run.document.insertion = false := by
        rw [← Bool.not_eq_true]
        exact mt (hs.counts_iff_fresh hrun).mp hstale
      simp [verdict, hcounts, Verdict.failure?]

/-- Nothing is published when a stale run ends. -/
theorem publish_not_mem_of_stale (hs : s.Sound) (hrun : run ∈ s.runs) (hstale : ¬ s.Fresh run)
    (result : RunResult) (uri : String) (ds : List EditorDiagnostic) :
    Effect.publish uri ds ∉ (step s (.finished run.id result)).2 := by
  intro hmem
  obtain ⟨r, hr, hid, -, hfresh, -⟩ := publish_finish hs hmem
  exact hstale (hs.runs.eq_of_id hr hrun hid ▸ hfresh)

/-- What was noted for a run was noted by its batch. -/
theorem notedBy_iff (hs : s.Sound) {b : Batch} (hb : b ∈ s.batches) {ticket : Nat}
    (hplace : run.place = some ⟨b.id, ticket⟩) {text : String} :
    s.NotedBy run text ↔ text ∈ b.failures.messages := by
  constructor
  · rintro ⟨c, hc, ⟨other, hother⟩, htext⟩
    have hid : b.id = c.id :=
      congrArg BatchPlace.batch (Option.some.inj (hplace.symm.trans hother))
    exact hs.batches.eq_of_id hb hc hid ▸ htext
  · exact fun htext => ⟨b, hb, ⟨ticket, hplace⟩, htext⟩

/-- A batch that is told of a failure shows it or notes it. -/
theorem shown_or_noted (hs : s.Sound) {b : Batch} (hb : b ∈ s.batches) (id ticket : Nat)
    {v : Verdict} {text : String} (hv : v.failure? = some text) :
    .showError text ∈ ((s.endRun id).proceed (record b ticket v)).2 ∨
      ∃ c ∈ ((s.endRun id).proceed (record b ticket v)).1.batches,
        c.id = b.id ∧ text ∈ c.failures.messages := by
  obtain ⟨hrid, -, -⟩ := record_same b ticket v
  have htold := told_or_noted (s := s.endRun id) (b := record b ticket v) hs.version
    ⟨b, hb, hrid.symm⟩ ((mem_failures_record b ticket).mpr (.inr hv))
  rw [hrid] at htold
  exact htold

/-- A batch that is told of no new failure shows what it had noted, and notes nothing. -/
theorem shown_and_noted (hs : s.Sound) {b : Batch} (hb : b ∈ s.batches) (id ticket : Nat)
    {v : Verdict} (hv : ∀ text, v.failure? = some text → text ∈ b.failures.messages) :
    (∀ text, .showError text ∈ ((s.endRun id).proceed (record b ticket v)).2 →
        text ∈ b.failures.messages) ∧
      ∀ c ∈ ((s.endRun id).proceed (record b ticket v)).1.batches,
        ∃ a ∈ s.batches, a.id = c.id ∧ a.failures.messages = c.failures.messages := by
  obtain ⟨hrid, -, -⟩ := record_same b ticket v
  have hsame := failures_record_of_noted ticket hv
  constructor
  · intro text hshow
    rw [← hsame]
    exact noted_of_told (s := s.endRun id) hs.version ⟨b, hb, hrid.symm⟩ hshow
  · intro c hc
    rcases mem_batches_proceed (s := s.endRun id) hs.version hc with ⟨hcid, hnotes⟩ | ⟨-, hold⟩
    · have hfailures : c.failures.messages = _ := congrArg Notes.failures hnotes
      exact ⟨b, hb, (hcid.trans hrid).symm, hsame.symm.trans hfailures.symm⟩
    · exact ⟨c, hold, rfl, rfl⟩

/-- A stale run is silent exactly if what it failed with, if anything, was noted before. -/
theorem silent_iff_failure? (hs : s.Sound) (hstaffed : s.Staffed) (hrun : run ∈ s.runs)
    (hstale : ¬ s.Fresh run) :
    s.Silent run result ↔
      ∀ message, (s.verdict run result).failure? = some message → s.NotedBy run message := by
  have hunpublished := publish_not_mem_of_stale hs hrun hstale result
  have hfinished := s.finish_finished run.id result
  have hiff : s.Silent run result ↔
      (∀ text, .showError text ∈ (s.finish run.id result).2 → s.NotedBy run text) ∧
        ∀ c ∈ (s.finish run.id result).1.batches,
          ∃ b ∈ s.batches, b.id = c.id ∧ b.failures.messages = c.failures.messages :=
    ⟨fun h => ⟨h.unshown, h.unnoted⟩, fun h => ⟨hunpublished, h.1, h.2⟩⟩
  rw [hiff]
  generalize s.finish run.id result = reaction at hfinished
  cases hfinished with
  | unknown hnone => exact absurd rfl (hnone run hrun)
  | alone r hr hid =>
      obtain rfl := hs.runs.eq_of_id hr hrun hid
      simp only [showError_mem_singleEffects]
      exact ⟨fun h => h.1, fun h => ⟨h, fun c hc => ⟨c, hc, rfl, rfl⟩⟩⟩
  | stray r hr hid place hplace hbatch =>
      obtain ⟨b, hb, hbid⟩ := hstaffed.home r hr place hplace
      exact absurd hbid (hbatch b hb)
  | @batched r hr hid place hplace b hb hbatch t done hproceed =>
      obtain rfl := hs.runs.eq_of_id hr hrun hid
      have hnoted : ∀ text, s.NotedBy r text ↔ text ∈ b.failures.messages :=
        fun text => notedBy_iff hs hb (by rw [hplace, hbatch])
      simp only [hnoted]
      constructor
      · rintro ⟨hshown, hkept⟩ message hmessage
        have htold := shown_or_noted hs hb r.id place.ticket hmessage
        rw [hproceed] at htold
        rcases htold with hshow | ⟨c, hc, hcid, hmember⟩
        · exact hshown message (List.mem_append_right _ hshow)
        · obtain ⟨a, ha, haid, hsame⟩ := hkept c hc
          obtain rfl := hs.batches.eq_of_id ha hb (haid.trans hcid)
          exact hsame ▸ hmember
      · intro hall
        have hquiet := shown_and_noted hs hb r.id place.ticket hall
        rw [hproceed] at hquiet
        refine ⟨fun text hshow => ?_, hquiet.2⟩
        -- A verdict shows nothing at once when it goes to a batch.
        rcases List.mem_append.mp hshow with hshow | hshow
        · cases hv : s.verdict r result <;> simp [hv, batchEffects] at hshow
        · exact hquiet.1 text hshow

end State

/-- When a run ends that was superseded, the editor is told nothing of it, unless the linter
failed to run: that failure is told, at once or at the end of the batch, or was noted already. -/
theorem silent_iff (h : History runtime machine events s sent) (hrun : run ∈ s.runs)
    (hstale : Superseded runtime machine events run) (result : RunResult) :
    s.Silent run result ↔
      ∀ fault, result = .failed fault →
        s.NotedBy run (State.failureText run.profile fault) := by
  have hfresh := h.not_fresh hstale
  rw [State.silent_iff_failure? h.sound h.staffed hrun hfresh]
  constructor
  · intro hnoted fault hfault
    exact hnoted _
      ((State.failure?_verdict_of_stale h.sound hrun hfresh).mpr ⟨fault, hfault, rfl⟩)
  · intro hnoted message hmessage
    obtain ⟨fault, hfault, rfl⟩ :=
      (State.failure?_verdict_of_stale h.sound hrun hfresh).mp hmessage
    exact hnoted fault hfault

/-! ## A document that is closed while it is validated -/

/-- The document of a run was closed while the run goes on. -/
theorem history_closed (runtime : Runtime) (machine : Machine) {p : Profile}
    (hp : State.accepted? shortSettings = some (some p)) (uri text : String) :
    ∃ sent, History runtime machine [.configured shortSettings, .opened uri text, .closed uri]
        { shortState machine p uri text with documents := [] } sent ∧
      Superseded runtime machine [.configured shortSettings, .opened uri text, .closed uri]
        (shortRun p uri text) := by
  have hready := history_ready runtime machine hp
  have hclosed := (history_short runtime machine hp uri text).step (.closed uri) trivial
  have hstate : (step (shortState machine p uri text) (.closed uri)).1 =
      { shortState machine p uri text with documents := [] } := by
    simp [step, shortState, Documents.erase]
  rw [hstate] at hclosed
  refine ⟨_, hclosed, ?_⟩
  have hstart : Effect.start (shortRun p uri text) ∈
      (step (readyState machine p) (.opened uri text)).2 := by
    rw [step_readyState]
    exact List.mem_singleton.mpr rfl
  exact ⟨_, _, [.closed uri], _, _, rfl, hready, hstart, .closed uri, List.mem_singleton.mpr rfl,
    .inl rfl⟩

/-- If docker reports a fault, the run of a closed document ends in silence. -/
theorem silent_of_daemonError :
    let result : RunResult := .outcome ⟨[], some "Error response from daemon: no", some 1, ""⟩
    ∃ p s sent, History (fun _ _ _ => True) .plain
        [.configured shortSettings, .opened "a.py" "x", .closed "a.py"] s sent ∧
      shortRun p "a.py" "x" ∈ s.runs ∧ s.Silent (shortRun p "a.py" "x") result := by
  intro result
  obtain ⟨p, hp⟩ := exists_shortProfile
  obtain ⟨sent, hclosed, hstale⟩ := history_closed (fun _ _ _ => True) .plain hp "a.py" "x"
  have hrun : shortRun p "a.py" "x" ∈
      { shortState .plain p "a.py" "x" with documents := [] }.runs :=
    List.mem_singleton.mpr rfl
  refine ⟨p, _, sent, hclosed, hrun, (silent_iff hclosed hrun hstale result).mpr ?_⟩
  intro fault hfault
  simp [result] at hfault

/-- If the linter fails to run, the editor is told so, though the document was closed. -/
theorem not_silent_of_failed :
    let result : RunResult := .failed (.io "pipe closed")
    ∃ p s sent, History (fun _ _ _ => True) .plain
        [.configured shortSettings, .opened "a.py" "x", .closed "a.py"] s sent ∧
      Superseded (fun _ _ _ => True) .plain
        [.configured shortSettings, .opened "a.py" "x", .closed "a.py"] (shortRun p "a.py" "x") ∧
      shortRun p "a.py" "x" ∈ s.runs ∧
      (step s (.finished 0 result)).2 =
        [.showError (State.failureText p (.io "pipe closed"))] ∧
      ¬ s.Silent (shortRun p "a.py" "x") result := by
  intro result
  obtain ⟨p, hp⟩ := exists_shortProfile
  obtain ⟨sent, hclosed, hstale⟩ := history_closed (fun _ _ _ => True) .plain hp "a.py" "x"
  have hsent : (step { shortState .plain p "a.py" "x" with documents := [] }
      (.finished 0 result)).2 = [.showError (State.failureText p (.io "pipe closed"))] := by
    simp [step, State.finish, shortState, result, State.verdict, State.singleEffects]
  refine ⟨p, _, sent, hclosed, hstale, List.mem_singleton.mpr rfl, hsent, fun hsilent => ?_⟩
  obtain ⟨b, hb, -⟩ := hsilent.unshown _ (hsent ▸ List.mem_singleton.mpr rfl)
  exact List.not_mem_nil hb

end ContainerLint.Server
