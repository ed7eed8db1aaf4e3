import ContainerLint.Proofs.Server.History

/-!
# No stale diagnostics

What is published for a linter run is what that run found, on the document that is open and under
the settings that are in force. `State.publish_finish` says so for the end of one run, and
`published_current` for every step of every history, where it is also said what "the same
document" means: nothing was put in its place since the run was started.
-/

namespace ContainerLint.Server

variable {runtime : Runtime} {machine : Machine} {events : List Event} {s : State}
  {sent : List Effect} {uri : String} {ds : List EditorDiagnostic}

namespace State

/-- Validating publishes nothing but the absence of diagnostics, for want of a profile. -/
theorem publish_validateSingle (hversion : s.config.version = s.counter) {name : String}
    (h : Effect.publish uri ds ∈ (s.validateSingle name).2) :
    ds = [] ∧ s.config.profile = none ∧ ∃ d, s.documents.lookup uri = some d := by
  have hvalidated := s.validateSingle_validated hversion name
  generalize s.validateSingle name = reaction at hvalidated h
  cases hvalidated with
  | unopened | started => simp at h
  | cleared d hopen hprofile =>
      simp only [List.mem_singleton, Effect.publish.injEq] at h
      exact ⟨h.2, hprofile, d, h.1 ▸ hopen⟩

theorem publish_proceed (hversion : s.config.version = s.counter) {b : Batch}
    (h : Effect.publish uri ds ∈ (s.proceed b).2) :
    ds = [] ∧ b.version = s.config.version ∧ s.config.profile = none ∧
      ∃ d, s.documents.lookup uri = some d := by
  obtain ⟨taken, new, c, sent, hfilled, -, hproceed⟩ := s.proceed_filled b hversion
  have hsent : Effect.publish uri ds ∈ sent := by
    rw [hproceed] at h
    split at h
    · exact (List.mem_append.mp h).resolve_right (publish_not_mem_closing c uri ds)
    · exact h
  rcases hfilled.sent_cases _ hsent with ⟨r, -, hr⟩ | ⟨hcurrent, hprofile, name, d, hopen, heq⟩
  · cases hr
  · cases heq
    exact ⟨rfl, hcurrent, hprofile, d, hopen⟩

theorem publish_validateAll (hversion : s.config.version = s.counter)
    (h : Effect.publish uri ds ∈ (s.validateAll s.config.version).2) :
    ds = [] ∧ s.config.profile = none ∧ ∃ d, s.documents.lookup uri = some d := by
  rw [validateAll_eq] at h
  split at h
  · simp at h
  · obtain ⟨hds, -, hclear⟩ := publish_proceed (s := s.openBatch) hversion h
    exact ⟨hds, hclear⟩

/-- The end of a run publishes what this run found, and only if the run is fresh. -/
theorem publish_finish (hs : s.Sound) {id : Nat} {result : RunResult}
    (h : Effect.publish uri ds ∈ (s.finish id result).2) :
    ∃ run ∈ s.runs, run.id = id ∧ run.uri = uri ∧ s.Fresh run ∧
      ∃ o, result = .outcome o ∧ o.daemonError = none ∧
        ds = EditorDiagnostic.ofDiagnostics run.profile.linter.name o.diagnostics := by
  have hverdict : ∀ run ∈ s.runs, run.id = id →
      (Effect.publish uri ds ∈ singleEffects run.uri (s.verdict run result) ∨
        Effect.publish uri ds ∈ batchEffects run.uri (s.verdict run result)) →
      ∃ run ∈ s.runs, run.id = id ∧ run.uri = uri ∧ s.Fresh run ∧
        ∃ o, result = .outcome o ∧ o.daemonError = none ∧
          ds = EditorDiagnostic.ofDiagnostics run.profile.linter.name o.diagnostics := by
    intro run hmem hid hsent
    obtain ⟨huri, hv⟩ := publish_mem_verdict hsent
    obtain ⟨hcounts, hfound⟩ := verdict_publish hv
    exact ⟨run, hmem, hid, huri.symm, (hs.counts_iff_fresh hmem).mp hcounts, hfound⟩
  have hfinished := s.finish_finished id result
  generalize s.finish id result = reaction at hfinished h
  cases hfinished with
  | unknown => simp at h
  | alone run hmem hid => exact hverdict run hmem hid (.inl h)
  | stray run hmem hid => exact hverdict run hmem hid (.inr h)
  | batched run hmem hid place hplace b hb hbatch hproceed =>
      rcases List.mem_append.mp h with h | h
      · exact hverdict run hmem hid (.inr h)
      · -- The batch is waited for, so it is out of date or there is a profile.
        obtain ⟨-, hversion, -⟩ := record_same b place.ticket (s.verdict run result)
        have hdone : Effect.publish uri ds ∈
            ((s.endRun id).proceed (record b place.ticket (s.verdict run result))).2 := by
          rw [hproceed]
          exact h
        obtain ⟨-, hcurrent, hprofile, -⟩ := publish_proceed (s := s.endRun id) hs.version hdone
        exact absurd hprofile (hs.batches.profile b hb (hversion ▸ hcurrent))

end State

/-- A message publishes nothing but the absence of diagnostics: of a document that is closed, or
of one that is open when there is no profile. -/
theorem publish_message (hs : s.Sound) {e : Event} (he : ∀ id result, e ≠ .finished id result)
    (h : Effect.publish uri ds ∈ (step s e).2) :
    ds = [] ∧ (e = .closed uri ∨
      ((step s e).1.config.profile = none ∧
        ∃ d, (step s e).1.documents.lookup uri = some d)) := by
  have hworks := step_works hs e
  have hversion := (hs.noted e).version
  rw [hworks.config, hworks.documents]
  have hstepped := step_stepped s e
  generalize step s e = reaction at hstepped h
  cases hstepped with
  | idle | refused => simp at h
  | single _ name =>
      obtain ⟨hds, hclear⟩ := State.publish_validateSingle hversion h
      exact ⟨hds, .inr hclear⟩
  | closed name =>
      simp only [List.mem_singleton, Effect.publish.injEq] at h
      exact ⟨h.2, .inl (by rw [h.1])⟩
  | accepted payload profile _ hnoted =>
      -- Documents are validated under the new settings, so these are the ones without a profile.
      rw [hnoted]
      obtain ⟨hds, hclear⟩ := State.publish_validateAll (s := s.accept profile) rfl
        ((List.mem_cons.mp h).resolve_left (by simp))
      exact ⟨hds, .inr hclear⟩
  | finished id result => exact absurd rfl (he id result)

/-- What a step publishes clears a document in answer to a message, or is what a fresh run found
that has just ended. -/
theorem publish_cases (hs : s.Sound) {e : Event} (h : Effect.publish uri ds ∈ (step s e).2) :
    (ds = [] ∧ (e = .closed uri ∨
      ((step s e).1.config.profile = none ∧ ∃ d, (step s e).1.documents.lookup uri = some d))) ∨
    ∃ run ∈ s.runs, ∃ o, e = .finished run.id (.outcome o) ∧ run.uri = uri ∧ s.Fresh run ∧
      (step s e).1.documents.lookup uri = some run.document ∧
      (step s e).1.config = ⟨run.version, some run.profile⟩ ∧
      ds = EditorDiagnostic.ofDiagnostics run.profile.linter.name o.diagnostics := by
  have hworks := step_works hs e
  by_cases he : ∀ id result, e ≠ .finished id result
  · exact .inl (publish_message hs he h)
  · simp only [ne_eq, not_forall, not_not] at he
    obtain ⟨id, result, rfl⟩ := he
    obtain ⟨run, hmem, rfl, rfl, hfresh, o, rfl, -, hds⟩ := State.publish_finish hs h
    refine .inr ⟨run, hmem, o, rfl, rfl, hfresh, ?_, ?_, hds⟩
    · rw [hworks.documents]
      exact hfresh.document
    · rw [hworks.config]
      exact hfresh.config

/-- Whatever is published in the course of a history clears a document in answer to a message, or
comes of a linter run that has just ended. In the latter case the document is the one that the run
was started on and was not replaced since, the settings are those that it was started under, and
what is published is what the run found. -/
theorem published_current (h : History runtime machine events s sent) {e : Event}
    (hadmits : s.Admits runtime e) (hpublish : Effect.publish uri ds ∈ (step s e).2) :
    ((∀ id result, e ≠ .finished id result) ∧ ds = []) ∨
      ∃ run ∈ s.runs, ∃ o, e = .finished run.id (.outcome o) ∧ run.uri = uri ∧
        s.documents.lookup uri = some run.document ∧
        s.config = ⟨run.version, some run.profile⟩ ∧ s.counter = run.version ∧
        runtime run.profile run.document.text (.outcome o) ∧ o.daemonError = none ∧
        ds = EditorDiagnostic.ofDiagnostics run.profile.linter.name o.diagnostics ∧
        Unreplaced runtime machine events run := by
  have hs := h.sound
  by_cases he : ∀ id result, e ≠ .finished id result
  · exact .inl ⟨he, (publish_message hs he hpublish).1⟩
  · simp only [ne_eq, not_forall, not_not] at he
    obtain ⟨id, result, rfl⟩ := he
    obtain ⟨run, hmem, rfl, rfl, hfresh, o, rfl, hdaemon, hds⟩ := State.publish_finish hs hpublish
    have hcounter : s.counter = run.version :=
      hs.version.symm.trans (congrArg ActiveConfig.version hfresh.config)
    exact .inr ⟨run, hmem, o, rfl, rfl, hfresh.document, hfresh.config, hcounter,
      hadmits run hmem rfl, hdaemon, hds, h.origin hmem hfresh⟩

/-- One run on one document: what it found is published, and it was started when the document was
opened. -/
theorem published_current_short :
    let result : RunResult := .outcome ⟨[.wholeLine 2 .error "E9"], none, some 1, ""⟩
    let runtime : Runtime := fun _ _ r => r = result
    ∃ p s sent, History runtime .plain [.configured shortSettings, .opened "a.py" "x"] s sent ∧
      Effect.publish "a.py"
          (EditorDiagnostic.ofDiagnostics p.linter.name [.wholeLine 2 .error "E9"]) ∈
        (step s (.finished 0 result)).2 ∧
      ∃ run ∈ s.runs, run.profile = p ∧ run.document = ⟨0, "x"⟩ ∧
        s.documents.lookup "a.py" = some run.document ∧
        Unreplaced runtime .plain [.configured shortSettings, .opened "a.py" "x"] run := by
  intro result runtime
  obtain ⟨p, hp⟩ := exists_shortProfile
  have hshort := history_short runtime .plain hp "a.py" "x"
  have hadmits : (shortState .plain p "a.py" "x").Admits runtime (.finished 0 result) :=
    fun _ _ _ => rfl
  have hpublish : Effect.publish "a.py"
      (EditorDiagnostic.ofDiagnostics p.linter.name [.wholeLine 2 .error "E9"]) ∈
        (step (shortState .plain p "a.py" "x") (.finished 0 result)).2 := by
    rw [step_shortState .plain p "a.py" "x" rfl]
    exact List.mem_singleton.mpr rfl
  refine ⟨p, _, _, hshort, hpublish, ?_⟩
  rcases published_current hshort hadmits hpublish with ⟨hmessage, -⟩ |
    ⟨run, hmem, o, -, -, hdocument, -, -, -, -, -, horigin⟩
  · exact absurd rfl (hmessage 0 result)
  · refine ⟨run, hmem, ?_, ?_, hdocument, horigin⟩
    all_goals
      rw [List.mem_singleton.mp hmem]

end ContainerLint.Server
