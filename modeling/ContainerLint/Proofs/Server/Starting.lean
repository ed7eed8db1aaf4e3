import ContainerLint.Proofs.Server.Frame

/-!
# Runs that are started

Whatever a step does, a run that it starts is started on the document and under the settings that
the step ends with (`step_start`).
-/

namespace ContainerLint.Server

variable {s : State} {r : Run}

namespace State

theorem start_validateSingle (hversion : s.config.version = s.counter) {uri : String}
    (h : Effect.start r ∈ (s.validateSingle uri).2) : s.Fresh r := by
  have hvalidated := s.validateSingle_validated hversion uri
  generalize s.validateSingle uri = reaction at hvalidated h
  cases hvalidated with
  | unopened | cleared => simp at h
  | started run hfresh =>
      simp only [List.mem_singleton, Effect.start.injEq] at h
      exact h ▸ hfresh

/-- At the end of a batch no run is started. -/
theorem start_not_mem_closing (b : Batch) (r : Run) : Effect.start r ∉ closing b := by
  simp [closing]

theorem start_proceed (hversion : s.config.version = s.counter) {b : Batch}
    (h : Effect.start r ∈ (s.proceed b).2) : s.Fresh r := by
  obtain ⟨taken, new, c, sent, hfilled, -, hproceed⟩ := s.proceed_filled b hversion
  have hsent : Effect.start r ∈ sent := by
    rw [hproceed] at h
    split at h
    · exact (List.mem_append.mp h).resolve_right (start_not_mem_closing c r)
    · exact h
  rcases hfilled.sent_cases _ hsent with ⟨run, hrun, heq⟩ | ⟨-, -, name, d, -, heq⟩
  · cases heq
    exact hfilled.fresh r hrun
  · cases heq

theorem start_validateAll (hversion : s.config.version = s.counter)
    (h : Effect.start r ∈ (s.validateAll s.config.version).2) : s.Fresh r := by
  rw [validateAll_eq] at h
  split at h
  · simp at h
  · have hfresh := start_proceed (s := s.openBatch) hversion h
    exact ⟨hfresh.document, hfresh.config⟩

/-- A verdict starts no run. -/
theorem start_not_mem_verdict (uri : String) (v : Verdict) (r : Run) :
    Effect.start r ∉ singleEffects uri v ∧ Effect.start r ∉ batchEffects uri v := by
  cases v <;> simp [singleEffects, batchEffects]

theorem start_finish (hs : s.Sound) {id : Nat} {result : RunResult}
    (h : Effect.start r ∈ (s.finish id result).2) : (s.endRun id).Fresh r := by
  have hfinished := s.finish_finished id result
  generalize s.finish id result = reaction at hfinished h
  cases hfinished with
  | unknown => simp at h
  | alone run => exact absurd h (start_not_mem_verdict _ _ r).1
  | stray run => exact absurd h (start_not_mem_verdict _ _ r).2
  | batched run hmem hid place hplace b hb hbatch hproceed =>
      have hdone := (List.mem_append.mp h).resolve_left (start_not_mem_verdict _ _ r).2
      refine start_proceed (s := s.endRun id) hs.version
        (b := record b place.ticket (s.verdict run result)) ?_
      rw [hproceed]
      exact hdone

end State

/-- A run that a step starts is fresh in the state that the step leads to. -/
theorem step_start (hs : s.Sound) {e : Event} (h : Effect.start r ∈ (step s e).2) :
    (step s e).1.Fresh r := by
  refine (step_works hs e).fresh_iff.mpr ?_
  have hversion := (hs.noted e).version
  have hstepped := step_stepped s e
  generalize step s e = reaction at hstepped h
  cases hstepped with
  | idle | closed | refused => simp at h
  | single _ uri => exact State.start_validateSingle hversion h
  | accepted payload profile _ hnoted =>
      rw [hnoted]
      exact State.start_validateAll rfl ((List.mem_cons.mp h).resolve_left (by simp))
  | finished id result => exact State.start_finish hs h

end ContainerLint.Server
