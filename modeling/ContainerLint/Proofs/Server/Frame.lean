import ContainerLint.Proofs.Server.Invariant

/-!
# What a step changes and what it leaves alone

A step first takes note of what happened (`State.noted`) and then validates. Validating starts
runs and leaves documents and settings alone (`State.Works`), so the two parts can be told apart
in every step (`step_works`).
-/

namespace ContainerLint.Server

namespace State

variable {s t u : State} {sent more : List Effect}

/-- What validating does to a state: it starts fresh runs, and leaves documents, settings and the
runs that go on as they are. -/
structure Works (s t : State) (sent : List Effect) : Prop where
  documents : t.documents = s.documents
  insertions : t.insertions = s.insertions
  config : t.config = s.config
  counter : t.counter = s.counter
  kept : ∀ r ∈ s.runs, r ∈ t.runs
  runs : ∀ r ∈ t.runs, r ∈ s.runs ∨ (Effect.start r ∈ sent ∧ s.Fresh r)

namespace Works

theorem refl (s : State) (sent : List Effect) : s.Works s sent :=
  ⟨rfl, rfl, rfl, rfl, fun _ hr => hr, fun _ hr => .inl hr⟩

theorem fresh_iff (h : s.Works t sent) {r : Run} : t.Fresh r ↔ s.Fresh r :=
  ⟨fun ⟨hd, hc⟩ => ⟨h.documents ▸ hd, h.config ▸ hc⟩,
    fun ⟨hd, hc⟩ => ⟨h.documents.symm ▸ hd, h.config.symm ▸ hc⟩⟩

/-- More may have been done than what was done to start the runs. -/
theorem mono (h : s.Works t sent) (hsub : ∀ e ∈ sent, e ∈ more) : s.Works t more :=
  { h with runs := fun r hr => (h.runs r hr).imp_right fun ⟨hs, hf⟩ => ⟨hsub _ hs, hf⟩ }

theorem begin (s : State) {new : List Run} (hfresh : ∀ r ∈ new, s.Fresh r)
    (hstarted : ∀ r ∈ new, Effect.start r ∈ sent) : s.Works (s.begin new) sent where
  documents := rfl
  insertions := rfl
  config := rfl
  counter := rfl
  kept _ hr := List.mem_append_left _ hr
  runs r hr := (List.mem_append.mp hr).imp_right fun hr => ⟨hstarted r hr, hfresh r hr⟩

/-- Batches do not matter to it. -/
theorem with_batches (h : s.Works t sent) (hdocuments : u.documents = t.documents)
    (hinsertions : u.insertions = t.insertions) (hconfig : u.config = t.config)
    (hcounter : u.counter = t.counter) (hruns : u.runs = t.runs) : s.Works u sent where
  documents := hdocuments.trans h.documents
  insertions := hinsertions.trans h.insertions
  config := hconfig.trans h.config
  counter := hcounter.trans h.counter
  kept r hr := hruns ▸ h.kept r hr
  runs r hr := h.runs r (hruns ▸ hr)

end Works

theorem works_validateSingle (s : State) (hversion : s.config.version = s.counter)
    (uri : String) :
    s.Works (s.validateSingle uri).1 (s.validateSingle uri).2 := by
  have hvalidated := s.validateSingle_validated hversion uri
  generalize s.validateSingle uri = reaction at hvalidated
  cases hvalidated with
  | unopened | cleared => exact .refl s _
  | started run hfresh => exact .begin s (by simpa using hfresh) (by simp)

theorem works_proceed (s : State) (hversion : s.config.version = s.counter) (b : Batch) :
    s.Works (s.proceed b).1 (s.proceed b).2 := by
  obtain ⟨taken, new, c, sent, hfilled, -, hproceed⟩ := s.proceed_filled b hversion
  have hworks := Works.begin s hfilled.fresh hfilled.started
  rw [hproceed]
  split
  · have hdropped : s.Works ((s.begin new).dropBatch c) sent :=
      hworks.with_batches rfl rfl rfl rfl rfl
    exact hdropped.mono fun _ he => List.mem_append_left _ he
  · exact hworks.with_batches rfl rfl rfl rfl rfl

theorem works_validateAll (s : State) (hversion : s.config.version = s.counter) :
    s.Works (s.validateAll s.config.version).1 (s.validateAll s.config.version).2 := by
  rw [validateAll_eq]
  split
  · exact .refl s _
  · obtain ⟨hdocuments, hinsertions, hconfig, hcounter, hkept, hruns⟩ :=
      s.openBatch.works_proceed hversion s.wholeBatch
    exact ⟨hdocuments, hinsertions, hconfig, hcounter, hkept,
      fun r hr => (hruns r hr).imp_right fun ⟨hs, hf⟩ => ⟨hs, ⟨hf.document, hf.config⟩⟩⟩

/-- Without a run to end, nothing leaves. -/
theorem endRun_eq_self {id : Nat} (h : ∀ r ∈ s.runs, r.id ≠ id) : s.endRun id = s := by
  simp only [endRun]
  rw [List.filter_eq_self.mpr (by simpa using h)]

theorem works_finish (h : s.Sound) (id : Nat) (result : RunResult) :
    (s.endRun id).Works (s.finish id result).1 (s.finish id result).2 := by
  have hfinished := s.finish_finished id result
  generalize s.finish id result = reaction at hfinished
  cases hfinished with
  | unknown hnone =>
      rw [endRun_eq_self hnone]
      exact .refl s _
  | alone | stray => exact .refl _ _
  | batched run hmem hid place hplace b hb hbatch hproceed =>
      have hworks := (s.endRun id).works_proceed h.version
        (record b place.ticket (s.verdict run result))
      rw [hproceed] at hworks
      exact hworks.mono fun _ he => List.mem_append_right _ he

/-! ## Steps -/

/-- The state in which it is noted what happened, before anything is validated. -/
def noted (s : State) : Event → State
  | .opened uri text => s.insert uri text
  | .changed uri (some text) => s.insert uri text
  | .changed _ none => s
  | .saved uri (some text) => s.insert uri text
  | .saved _ none => s
  | .closed uri => { s with documents := s.documents.erase uri }
  | .configured payload =>
    match accepted? payload with
    | some profile => s.accept profile
    | none => s
  | .finished id _ => s.endRun id

theorem Sound.noted (h : s.Sound) (e : Event) : (s.noted e).Sound := by
  cases e with
  | opened uri text => exact h.insert uri text
  | changed uri text | saved uri text =>
      cases text with
      | none => exact h
      | some text => exact h.insert uri text
  | closed uri => exact h.erase uri
  | configured payload =>
      simp only [State.noted]
      cases accepted? payload with
      | none => exact h
      | some profile => exact h.accept profile
  | finished id result => exact h.endRun id

/-- Noting something adds no run. -/
theorem mem_runs_of_noted {e : Event} {r : Run} (hr : r ∈ (s.noted e).runs) : r ∈ s.runs := by
  cases e with
  | opened | closed => exact hr
  | changed uri text | saved uri text => cases text <;> exact hr
  | configured payload =>
      simp only [noted] at hr
      split at hr <;> exact hr
  | finished id result => exact List.mem_of_mem_filter hr

end State

/-- The profile that the settings of an event choose, if it brings settings that are accepted. -/
def Event.accepted? : Event → Option (Option Profile)
  | .configured payload => State.accepted? payload
  | _ => none

/-- What a step can come to once it is noted what happened: nothing more; one document that is
validated; a document that is closed; settings that are refused, or accepted with all documents
validated; or the end of a run. -/
inductive Stepped (s : State) : Event → Reaction → Prop
  | idle (e : Event) (haccepted : e.accepted? = none)
      (hended : ∀ id result, e ≠ .finished id result) (hnoted : s.noted e = s) :
      Stepped s e (s, [])
  | single (e : Event) (uri : String) (haccepted : e.accepted? = none)
      (hended : ∀ id result, e ≠ .finished id result) (hconfig : (s.noted e).config = s.config)
      (hruns : (s.noted e).runs = s.runs) (hbatches : (s.noted e).batches = s.batches)
      (hstarted : (s.noted e).batchesStarted = s.batchesStarted) :
      Stepped s e ((s.noted e).validateSingle uri)
  | closed (uri : String) : Stepped s (.closed uri) (s.noted (.closed uri), [.publish uri []])
  | refused (payload : Value) (text : String) (haccepted : State.accepted? payload = none)
      (hnoted : s.noted (.configured payload) = s) :
      Stepped s (.configured payload) (s, [.showError text])
  | accepted (payload : Value) (profile : Option Profile)
      (haccepted : State.accepted? payload = some profile)
      (hnoted : s.noted (.configured payload) = s.accept profile) :
      Stepped s (.configured payload)
        (((s.accept profile).validateAll (s.accept profile).config.version).1,
          .logInfo (State.profileText profile) ::
            ((s.accept profile).validateAll (s.accept profile).config.version).2)
  | finished (id : Nat) (result : RunResult) :
      Stepped s (.finished id result) (s.finish id result)

/-- Every step does one of these things. -/
theorem step_stepped (s : State) (e : Event) : Stepped s e (step s e) := by
  cases e with
  | opened uri text => exact .single _ uri rfl (fun _ _ h => nomatch h) rfl rfl rfl rfl
  | changed uri text =>
      cases text with
      | none => exact .idle _ rfl (fun _ _ h => nomatch h) rfl
      | some text =>
          exact .single (.changed uri (some text)) uri rfl (fun _ _ h => nomatch h)
            rfl rfl rfl rfl
  | saved uri text =>
      cases text with
      | none => exact .single (.saved uri none) uri rfl (fun _ _ h => nomatch h) rfl rfl rfl rfl
      | some text =>
          exact .single (.saved uri (some text)) uri rfl (fun _ _ h => nomatch h) rfl rfl rfl rfl
  | closed uri => exact .closed uri
  | configured payload =>
      show Stepped s (.configured payload) (s.configure payload)
      rcases s.configure_cases payload with ⟨hrefused, text, heq⟩ | ⟨profile, haccepted, heq⟩
      · rw [heq]
        exact .refused payload text hrefused (by simp only [State.noted, hrefused])
      · rw [heq]
        exact .accepted payload profile haccepted (by simp only [State.noted, haccepted])
  | finished id result => exact .finished id result

/-- A step notes what happened and then validates. -/
theorem step_works {s : State} (h : s.Sound) (e : Event) :
    (s.noted e).Works (step s e).1 (step s e).2 := by
  have hversion := (h.noted e).version
  have hstepped := step_stepped s e
  generalize step s e = reaction at hstepped
  cases hstepped with
  | idle _ _ _ hnoted =>
      rw [hnoted]
      exact .refl s _
  | single _ uri => exact (s.noted e).works_validateSingle hversion uri
  | closed uri => exact .refl _ _
  | refused payload text _ hnoted =>
      rw [hnoted]
      exact .refl s _
  | accepted payload profile _ hnoted =>
      rw [hnoted]
      exact ((s.accept profile).works_validateAll rfl).mono fun _ he => List.mem_cons_of_mem _ he
  | finished id result => exact State.works_finish h id result

end ContainerLint.Server
