import ContainerLint.Proofs.Server.Replay
import ContainerLint.Proofs.Server.Starting

/-!
# Versions of the settings

Settings that are refused change nothing, and settings that are accepted are counted. The version
in force is therefore the number of settings that were accepted so far, and a version stands for
the profile that these settings chose. Main statement: `settings_atomic`.
-/

namespace ContainerLint.Server

/-- What the accepted settings among some events chose, in order. -/
def acceptedProfiles (events : List Event) : List (Option Profile) :=
  events.filterMap Event.accepted?

variable {runtime : Runtime} {machine : Machine} {events : List Event} {s : State}
  {sent : List Effect} {e : Event}

/-- Only accepted settings change what is in force. -/
theorem State.noted_refused (s : State) (h : e.accepted? = none) :
    (s.noted e).config = s.config ∧ (s.noted e).counter = s.counter := by
  cases e with
  | opened | closed | finished => exact ⟨rfl, rfl⟩
  | changed uri text | saved uri text => cases text <;> exact ⟨rfl, rfl⟩
  | configured payload =>
      have hrefused : State.accepted? payload = none := h
      simp only [State.noted, hrefused, and_self]

theorem Event.not_reconfigures : ¬ e.Reconfigures ↔ e.accepted? = none := by
  cases e with
  | configured payload => exact Option.not_isSome_iff_eq_none
  | opened | changed | saved | closed | finished => exact ⟨fun _ => rfl, fun _ hf => hf⟩

/-- Accepted settings come into force under the next version. -/
theorem State.noted_accepted (s : State) {profile : Option Profile}
    (h : e.accepted? = some profile) : s.noted e = s.accept profile := by
  cases e with
  | configured payload =>
      have haccepted : State.accepted? payload = some profile := h
      simp only [State.noted, haccepted]
  | opened | changed | saved | closed | finished => cases h

/-- The version in force counts the accepted settings, and the profile in force is the choice of
the last of them. -/
theorem History.config_eq (h : History runtime machine events s sent) :
    s.config = ⟨(acceptedProfiles events).length, (acceptedProfiles events).getLast?.join⟩ := by
  induction h with
  | start => rfl
  | @step events s sent e h hadmits ih =>
      have hcounter : s.counter = (acceptedProfiles events).length := by
        rw [← h.sound.version, ih]
      rw [(step_works h.sound e).config]
      cases haccepted : e.accepted? with
      | none =>
          rw [(s.noted_refused haccepted).1, ih]
          simp [acceptedProfiles, haccepted]
      | some profile =>
          rw [s.noted_accepted haccepted]
          simp [State.accept, acceptedProfiles, haccepted, hcounter]

/-- A run that was ever started has the profile that the settings of its version chose. -/
theorem History.profile_of_started (h : History runtime machine events s sent) {r : Run}
    (hstart : Effect.start r ∈ sent) :
    ∃ n, r.version = n + 1 ∧ (acceptedProfiles events)[n]? = some (some r.profile) := by
  induction h with
  | start => simp at hstart
  | @step events s sent e h hadmits ih =>
      rcases List.mem_append.mp hstart with hold | hnew
      · obtain ⟨n, hversion, hprofile⟩ := ih hold
        have hlt : n < (acceptedProfiles events).length :=
          (List.getElem?_eq_some_iff.mp hprofile).1
        refine ⟨n, hversion, ?_⟩
        rw [acceptedProfiles, List.filterMap_append]
        exact (List.getElem?_append_left hlt).trans hprofile
      · -- A new run is started under the settings in force, which were accepted last.
        have hfresh := step_start h.sound hnew
        have hconfig := hfresh.config.symm.trans (h.step e hadmits).config_eq
        have hversion : r.version = (acceptedProfiles (events ++ [e])).length :=
          congrArg ActiveConfig.version hconfig
        have hlast := Option.join_eq_some_iff.mp (congrArg ActiveConfig.profile hconfig).symm
        rw [List.getLast?_eq_getElem?] at hlast
        have hlt := (List.getElem?_eq_some_iff.mp hlast).1
        refine ⟨(acceptedProfiles (events ++ [e])).length - 1, ?_, hlast⟩
        omega

/-- Whatever happened before, settings that cannot be read or used are reported with one error and
change nothing; all others come into force under the next version, and leave the documents alone.
So the version in force is the number of settings accepted so far, as is the counter that results
are checked against, and runs of one version have one profile. -/
theorem settings_atomic (h : History runtime machine events s sent) :
    (∀ payload,
      (∀ m, Settings.ofPayload payload = .error m →
        step s (.configured payload) = (s, [.showError (State.unreadableText m)])) ∧
      ∀ settings, Settings.ofPayload payload = .ok settings →
        (∀ f, settings.resolve = .error f →
          step s (.configured payload) = (s, [.showError (State.unusableText f)])) ∧
        ∀ profile, settings.resolve = .ok profile →
          (step s (.configured payload)).1.config = ⟨s.config.version + 1, profile⟩ ∧
            (step s (.configured payload)).1.counter = s.counter + 1 ∧
            (step s (.configured payload)).1.documents = s.documents) ∧
    s.config.version = s.counter ∧ s.counter = (acceptedProfiles events).length ∧
    ∀ r q, Effect.start r ∈ sent → Effect.start q ∈ sent → r.version = q.version →
      r.profile = q.profile := by
  have hversion := h.sound.version
  refine ⟨fun payload => ⟨fun m hm => ?_, fun settings hsettings => ⟨fun f hf => ?_, ?_⟩⟩,
    hversion, ?_, ?_⟩
  · simp only [step, State.configure, hm]
  · simp only [step, State.configure, hsettings, hf]
  · intro profile hprofile
    have haccepted : Event.accepted? (.configured payload) = some profile := by
      simp [Event.accepted?, State.accepted?, hsettings, hprofile, Except.toOption]
    have hworks := step_works h.sound (.configured payload)
    rw [s.noted_accepted haccepted] at hworks
    rw [hversion]
    exact ⟨hworks.config, hworks.counter, hworks.documents⟩
  · rw [← hversion, h.config_eq]
  · intro r q hr hq hsame
    obtain ⟨n, hn, hrprofile⟩ := h.profile_of_started hr
    obtain ⟨m, hm, hqprofile⟩ := h.profile_of_started hq
    obtain rfl : n = m := by omega
    exact Option.some.inj (Option.some.inj (hrprofile.symm.trans hqprofile))

/-- Settings with two profiles, of which none is chosen. -/
def ambiguousSettings : Settings :=
  let inContainer (name : String) : Option ProfileEntry :=
    some (.custom { ProfileSettings.unchanged with container := some name })
  { Settings.empty with perl := inContainer "pl", php := inContainer "web" }

/-- While a document is being validated, settings that are ambiguous are refused and change
nothing. -/
theorem settings_atomic_ambiguous :
    let payload : Value :=
      .obj [("dockerLinter", .obj [("perl", .obj [("container", .str "pl")]),
        ("php", .obj [("container", .str "web")])])]
    let fault : ConfigFault := .ambiguousProfiles [.perl, .php]
    ∃ s sent, History (fun _ _ _ => True) .plain [.configured shortSettings, .opened "a.py" "x"]
        s sent ∧
      Settings.ofPayload payload = .ok ambiguousSettings ∧
      ambiguousSettings.resolve = .error fault ∧
      step s (.configured payload) = (s, [.showError (State.unusableText fault)]) ∧
      s.config.version = 1 ∧ s.config.profile ≠ none := by
  intro payload fault
  obtain ⟨p, hp⟩ := exists_shortProfile
  have hshort := history_short (fun _ _ _ => True) .plain hp "a.py" "x"
  have hread : Settings.ofPayload payload = .ok ambiguousSettings := by rfl
  have hrefused : ambiguousSettings.resolve = .error fault := by rfl
  refine ⟨_, _, hshort, hread, hrefused, ?_, rfl, nofun⟩
  exact (((settings_atomic hshort).1 payload).2 ambiguousSettings hread).1 fault hrefused

end ContainerLint.Server
