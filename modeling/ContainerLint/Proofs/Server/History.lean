import ContainerLint.Proofs.Server.Frame

/-!
# Histories of the server

A `History` is a sequence of events from the start of the server, with the state that it leads to
and all that was done on the way. Messages may come at any time; a run may end at any time with
any result that the `Runtime` allows for its profile and its text. `History.sound` says that what
is kept by every step holds in every state, `History.origin` what is known of the time since a run
was started.
-/

namespace ContainerLint.Server

/-- What can come of running a profile on a text. -/
abbrev Runtime := Profile → String → RunResult → Prop

/-- Whether an event can happen: a run ends only with a result that the runtime allows. -/
def State.Admits (runtime : Runtime) (s : State) : Event → Prop
  | .finished id result =>
    ∀ run ∈ s.runs, run.id = id → runtime run.profile run.document.text result
  | _ => True

/-- The events since the start, the state after them, and what was done. -/
inductive History (runtime : Runtime) (machine : Machine) :
    List Event → State → List Effect → Prop
  | start : History runtime machine [] (.initial machine) []
  | step {events : List Event} {s : State} {sent : List Effect} (e : Event)
      (h : History runtime machine events s sent) (hadmits : s.Admits runtime e) :
      History runtime machine (events ++ [e]) (step s e).1 (sent ++ (step s e).2)

namespace Event

/-- The event puts in or drops the document of a name. -/
def Replaces (uri : String) : Event → Prop
  | .opened name _ | .changed name (some _) | .saved name (some _) | .closed name => name = uri
  | _ => False

/-- The event puts new settings in force. -/
def Reconfigures : Event → Prop
  | .configured payload => (State.accepted? payload).isSome
  | _ => False

end Event

variable {runtime : Runtime} {machine : Machine} {events : List Event} {s : State}
  {sent : List Effect}

theorem History.sound (h : History runtime machine events s sent) : s.Sound := by
  induction h with
  | start => exact State.sound_initial machine
  | step e _ _ ih => exact step_sound ih e

/-- A run that is fresh after something was noted was fresh before, and neither its document nor
the settings were replaced: whatever is put in or comes into force is newer than the run. -/
theorem State.Fresh.of_noted {e : Event} {r : Run} (hfresh : (s.noted e).Fresh r) (h : s.Sound)
    (hinsertion : r.document.insertion < s.insertions) (hle : r.version ≤ s.config.version) :
    s.Fresh r ∧ ¬ e.Replaces r.uri ∧ ¬ e.Reconfigures := by
  have hinsert : ∀ uri text, (s.insert uri text).Fresh r → s.Fresh r ∧ uri ≠ r.uri := by
    rintro uri text ⟨hdocument, hconfig⟩
    simp only [State.insert, Documents.lookup_set] at hdocument
    split at hdocument
    · have hnew : r.document.insertion = s.insertions := by rw [← Option.some.inj hdocument]
      exact absurd hnew (Nat.ne_of_lt hinsertion)
    · rename_i hne
      exact ⟨⟨hdocument, hconfig⟩, fun huri => hne huri.symm⟩
  cases e with
  | opened uri text =>
      obtain ⟨hold, huri⟩ := hinsert uri text hfresh
      exact ⟨hold, huri, id⟩
  | changed uri text | saved uri text =>
      cases text with
      | none => exact ⟨hfresh, id, id⟩
      | some text =>
          obtain ⟨hold, huri⟩ := hinsert uri text hfresh
          exact ⟨hold, huri, id⟩
  | closed uri =>
      obtain ⟨hdocument, hconfig⟩ := hfresh
      simp only [State.noted, Documents.lookup_erase] at hdocument
      split at hdocument
      · cases hdocument
      · rename_i hne
        exact ⟨⟨hdocument, hconfig⟩, fun huri => hne huri.symm, id⟩
  | configured payload =>
      simp only [State.noted] at hfresh
      cases haccepted : State.accepted? payload with
      | none =>
          rw [haccepted] at hfresh
          exact ⟨hfresh, id, by simp [Event.Reconfigures, haccepted]⟩
      | some profile =>
          rw [haccepted] at hfresh
          have hversion : s.counter + 1 = r.version := congrArg ActiveConfig.version hfresh.config
          rw [h.version] at hle
          omega
  | finished id result => exact ⟨⟨hfresh.document, hfresh.config⟩, fun hf => hf, fun hf => hf⟩

/-- A run was started in the course of some events, on the document and under the settings of
then; and since then neither its document nor the settings were replaced. -/
def Unreplaced (runtime : Runtime) (machine : Machine) (events : List Event) (run : Run) : Prop :=
  ∃ before e after t sent, events = before ++ e :: after ∧
    History runtime machine before t sent ∧ t.Admits runtime e ∧
    Effect.start run ∈ (step t e).2 ∧ (step t e).1.Fresh run ∧
    ∀ a ∈ after, ¬ a.Replaces run.uri ∧ ¬ a.Reconfigures

/-- A run that is fresh is so since it was started. -/
theorem History.origin (h : History runtime machine events s sent) {run : Run}
    (hrun : run ∈ s.runs) (hfresh : s.Fresh run) : Unreplaced runtime machine events run := by
  induction h with
  | start => simp [State.initial] at hrun
  | @step events s sent e h hadmits ih =>
      have hworks := step_works h.sound e
      have hnoted := hworks.fresh_iff.mp hfresh
      rcases hworks.runs run hrun with hold | ⟨hstarted, -⟩
      · -- The run is older than this step, which has kept its document and the settings.
        have hmem := State.mem_runs_of_noted hold
        obtain ⟨hfresh, hkept⟩ := hnoted.of_noted h.sound (h.sound.runs.insertion_lt run hmem)
          (h.sound.runs.version_le run hmem)
        obtain ⟨before, first, after, t, done, rfl, ht, hfirst, hstart, hthen, hafter⟩ :=
          ih hmem hfresh
        refine ⟨before, first, after ++ [e], t, done, by simp, ht, hfirst, hstart, hthen, ?_⟩
        intro a ha
        rcases List.mem_append.mp ha with ha | ha
        · exact hafter a ha
        · exact List.mem_singleton.mp ha ▸ hkept
      · exact ⟨events, e, [], s, sent, rfl, h, hadmits, hstarted, hfresh, by simp⟩

/-! ## A short history -/

/-- Settings that choose one linter, with a short pattern. -/
def shortSettings : Value :=
  .obj [("dockerLinter", .obj [("flake8", .obj [("container", .str "tools"),
    ("pattern", .str "(x)"), ("lineGroup", .int 1), ("messageGroup", .int 1)])])]

/-- These settings are accepted. -/
theorem exists_shortProfile : ∃ p, State.accepted? shortSettings = some (some p) := by
  have hsome : ((State.accepted? shortSettings).bind id).isSome = true := by decide +kernel
  obtain ⟨p, hp⟩ := Option.isSome_iff_exists.mp hsome
  obtain ⟨profile, haccepted, rfl⟩ := Option.bind_eq_some_iff.mp hp
  exact ⟨p, haccepted⟩

theorem linter_of_shortSettings {p : Profile}
    (hp : State.accepted? shortSettings = some (some p)) : p.linter = .flake8 := by
  have hlinter : ((State.accepted? shortSettings).bind id).map Profile.linter = some .flake8 := by
    decide +kernel
  rw [hp] at hlinter
  exact Option.some.inj hlinter

/-- The state in which the first settings are in force. -/
def readyState (machine : Machine) (p : Profile) : State :=
  { State.initial machine with counter := 1, config := ⟨1, some p⟩ }

/-- The run of a document that was opened next. -/
def shortRun (p : Profile) (uri text : String) : Run := ⟨0, uri, ⟨0, text⟩, 1, p, none⟩

/-- The state in which it is being validated. -/
def shortState (machine : Machine) (p : Profile) (uri text : String) : State :=
  ⟨machine, [(uri, ⟨0, text⟩)], 1, ⟨1, some p⟩, 1, [⟨0, uri, ⟨0, text⟩, 1, p, none⟩], 1, [], 0⟩

theorem history_ready (runtime : Runtime) (machine : Machine) {p : Profile}
    (hp : State.accepted? shortSettings = some (some p)) :
    History runtime machine [.configured shortSettings] (readyState machine p)
      [.logInfo (State.profileText (some p))] := by
  have hfirst : step (.initial machine) (.configured shortSettings) =
      (readyState machine p, [.logInfo (State.profileText (some p))]) := by
    rcases (State.initial machine).configure_cases shortSettings with
      ⟨hnone, -⟩ | ⟨profile, hsome, heq⟩
    · cases hp.symm.trans hnone
    · cases hp.symm.trans hsome
      exact heq
  have hstart : History runtime machine [] (.initial machine) [] := .start
  have hready := hstart.step (.configured shortSettings) trivial
  rw [hfirst] at hready
  exact hready

theorem step_readyState (machine : Machine) (p : Profile) (uri text : String) :
    step (readyState machine p) (.opened uri text) =
      (shortState machine p uri text, [.start (shortRun p uri text)]) := by
  simp [step, State.insert, readyState, State.initial, State.validateSingle, State.validate,
    Documents.set, shortState, shortRun]

theorem history_short (runtime : Runtime) (machine : Machine) {p : Profile}
    (hp : State.accepted? shortSettings = some (some p)) (uri text : String) :
    History runtime machine [.configured shortSettings, .opened uri text]
      (shortState machine p uri text)
      [.logInfo (State.profileText (some p)), .start (shortRun p uri text)] := by
  have hopened := (history_ready runtime machine hp).step (.opened uri text) trivial
  rw [step_readyState] at hopened
  exact hopened

/-- What the run found is published when it ends. -/
theorem step_shortState (machine : Machine) (p : Profile) (uri text : String) {o : Outcome}
    (ho : o.daemonError = none) :
    step (shortState machine p uri text) (.finished 0 (.outcome o)) =
      ((shortState machine p uri text).endRun 0,
        [.publish uri (EditorDiagnostic.ofDiagnostics p.linter.name o.diagnostics)]) := by
  simp [step, State.finish, shortState, State.verdict, State.counts, State.singleEffects,
    State.endRun, ho]

theorem history_found (runtime : Runtime) (machine : Machine) {p : Profile}
    (hp : State.accepted? shortSettings = some (some p)) (uri text : String) {o : Outcome}
    (ho : o.daemonError = none) (hruntime : runtime p text (.outcome o)) :
    History runtime machine [.configured shortSettings, .opened uri text,
        .finished 0 (.outcome o)]
      ((shortState machine p uri text).endRun 0)
      [.logInfo (State.profileText (some p)), .start (shortRun p uri text),
        .publish uri (EditorDiagnostic.ofDiagnostics p.linter.name o.diagnostics)] := by
  have hadmits : (shortState machine p uri text).Admits runtime (.finished 0 (.outcome o)) := by
    intro run hrun _
    rw [List.mem_singleton.mp hrun]
    exact hruntime
  have hfound := (history_short runtime machine hp uri text).step _ hadmits
  rw [step_shortState machine p uri text ho] at hfound
  exact hfound

end ContainerLint.Server
