import ContainerLint.Proofs.CommandLine.Offline
import ContainerLint.Proofs.Docker.Environments

/-!
# Exit codes of a check

A check goes through stages: settings, the choice of a linter, its profile, the file, docker, and
the run. `Obstacle` says what can go wrong at each of them. `check_exitCode` says that a check
ends with 2 exactly if there is an obstacle, and prints nothing on its standard output then; that
otherwise it ends with 1 or 0, as there is an error among the diagnostics or not; and which
programs were asked for by then.
-/

namespace ContainerLint

/-! ## What docker is asked for -/

/-- A request to run something in a container. -/
def Invocation.isExec (i : Invocation) : Bool := i.arguments.head? = some "exec"

namespace DockerEnvironment

theorem not_isExec_of_mem_machineRequests {options : DockerOptions} {i : Invocation}
    (h : i ∈ machineRequests options) : i.isExec = false := by
  rw [machineRequests, Option.mem_toList, Option.map_eq_some_iff] at h
  obtain ⟨name, -, rfl⟩ := h
  rfl

/-- To prepare docker nothing is run in a container. -/
theorem not_isExec_of_mem_prepare {e : DockerEnvironment} {launch : Launcher}
    {options : DockerOptions} {i : Invocation} (h : i ∈ (e.prepare launch options).2) :
    i.isExec = false := by
  have hanswered := perform_answered e (.prepare launch options)
  obtain ⟨-, -, hmachine, hboth⟩ := hanswered.of_prepare (perform_call e _)
  have hasked : i ∈ (e.perform (.prepare launch options)).2.asked := h
  by_cases hanswers : MachineAnswers launch options
  · rw [hboth hanswers] at hasked
    rcases List.mem_append.mp hasked with hrequest | hprobe
    · exact not_isExec_of_mem_machineRequests hrequest
    · rw [List.mem_singleton.mp hprobe]
      rfl
  · rw [hmachine hanswers] at hasked
    exact not_isExec_of_mem_machineRequests hasked

end DockerEnvironment

namespace CommandLine

variable {w : Surroundings} {r : CheckRequest} {config : Option String} {p : Profile}
  {text : String} {docker : DockerEnvironment} {asked : List Invocation}

/-! ## The stages of a check -/

/-- A check comes to a profile: that of the linter that is named, or that the settings choose, in
the container that is named, if one is. -/
def Surroundings.Finds (w : Surroundings) (r : CheckRequest) (config : Option String)
    (p : Profile) : Prop :=
  ∃ s linter, w.settings config = .ok s ∧ chooseLinter s r.profile = .ok linter ∧
    ((withContainer s linter r.container).profileSettings linter).resolve linter = .ok p

/-- A check has all that it needs to run a linter: the profile, the text of the file, and docker,
which was prepared by asking for some programs. -/
structure Surroundings.Readies (w : Surroundings) (r : CheckRequest) (config : Option String)
    (p : Profile) (text : String) (docker : DockerEnvironment) (asked : List Invocation) :
    Prop where
  profile : w.Finds r config p
  file : w.readText r.file = .ok text
  docker : DockerEnvironment.initial.prepare w.launch ⟨r.docker, r.machine⟩ =
    ((docker, .ok ()), asked)

/-- What can keep a check from a report: the settings cannot be loaded; no linter can be chosen;
its profile cannot be used; the file cannot be read as text; docker cannot be prepared; the linter
cannot be run; or docker reports a fault of its own. -/
inductive Obstacle (w : Surroundings) (r : CheckRequest) (config : Option String) : Prop
  | settings (failure : Failure) (h : w.settings config = .error failure)
  | choice (s : Settings) (failure : Failure) (hs : w.settings config = .ok s)
      (h : chooseLinter s r.profile = .error failure)
  | profile (s : Settings) (linter : Linter) (fault : ConfigFault)
      (hs : w.settings config = .ok s) (hlinter : chooseLinter s r.profile = .ok linter)
      (h : ((withContainer s linter r.container).profileSettings linter).resolve linter =
        .error fault)
  | file (p : Profile) (fault : IoFault) (hp : w.Finds r config p)
      (h : w.readText r.file = .error fault)
  | docker (p : Profile) (text : String) (fault : RuntimeFault) (hp : w.Finds r config p)
      (htext : w.readText r.file = .ok text)
      (h : (DockerEnvironment.initial.prepare w.launch ⟨r.docker, r.machine⟩).1.2 = .error fault)
  | run (p : Profile) (text : String) (docker : DockerEnvironment) (asked : List Invocation)
      (fault : RuntimeFault) (hready : w.Readies r config p text docker asked)
      (h : (docker.exec w.launch p text).1 = .error fault)
  | daemon (p : Profile) (text : String) (docker : DockerEnvironment) (asked : List Invocation)
      (o : Outcome) (message : String) (hready : w.Readies r config p text docker asked)
      (h : (docker.exec w.launch p text).1 = .ok o) (hmessage : o.daemonError = some message)

/-- What a check can come to: it meets an obstacle before docker is asked for, while docker is
prepared, or in the run; or it gives a report. -/
inductive Checked (w : Surroundings) (r : CheckRequest) (config : Option String)
    (finished : Finished) : Prop
  | unready (hobstacle : Obstacle w r config) (hcode : finished.exitCode = 2)
      (hprinted : finished.stdout = "") (hasked : finished.asked = [])
  | unprepared (p : Profile) (text : String) (hp : w.Finds r config p)
      (htext : w.readText r.file = .ok text) (hobstacle : Obstacle w r config)
      (hcode : finished.exitCode = 2) (hprinted : finished.stdout = "")
      (hasked : ∀ i ∈ finished.asked, i.isExec = false)
  | stopped (p : Profile) (text : String) (docker : DockerEnvironment) (asked : List Invocation)
      (hready : w.Readies r config p text docker asked) (hobstacle : Obstacle w r config)
      (hcode : finished.exitCode = 2) (hprinted : finished.stdout = "")
      (hasked : finished.asked = asked ++ [docker.execRequest p text])
  | reported (p : Profile) (text : String) (docker : DockerEnvironment) (asked : List Invocation)
      (o : Outcome) (hready : w.Readies r config p text docker asked)
      (hrun : (docker.exec w.launch p text).1 = .ok o) (hdaemon : o.daemonError = none)
      (hfinished : finished = w.report r.format r.file p.linter o.diagnostics
        (asked ++ [docker.execRequest p text]))

/-- With a linter chosen, a check goes on with its profile. -/
theorem prepareCheck_of_choice {s : Settings} {linter : Linter} (hs : w.settings config = .ok s)
    (hlinter : chooseLinter s r.profile = .ok linter) :
    w.prepareCheck r config =
      orBadSettings (((withContainer s linter r.container).profileSettings linter).resolve
        linter) >>= w.textToCheck r.file := by
  rw [prepareCheck_eq, hs]
  show (chooseLinter s r.profile >>= fun linter => _) = _
  rw [hlinter]
  rfl

/-- Before docker is asked for, a check has found its profile and read its file, or has met an
obstacle. -/
theorem prepareCheck_cases (w : Surroundings) (r : CheckRequest) (config : Option String) :
    (∃ failure, w.prepareCheck r config = .error failure ∧ Obstacle w r config) ∨
    ∃ p text, w.prepareCheck r config = .ok (p, text) ∧ w.Finds r config p ∧
      w.readText r.file = .ok text := by
  cases hs : w.settings config with
  | error failure =>
      refine .inl ⟨failure, ?_, .settings failure hs⟩
      rw [prepareCheck_eq, hs]
      rfl
  | ok s =>
      cases hlinter : chooseLinter s r.profile with
      | error failure =>
          refine .inl ⟨failure, ?_, .choice s failure hs hlinter⟩
          rw [prepareCheck_eq, hs]
          show (chooseLinter s r.profile >>= fun linter => _) = _
          rw [hlinter]
          rfl
      | ok linter =>
          rw [prepareCheck_of_choice hs hlinter]
          cases hp : ((withContainer s linter r.container).profileSettings linter).resolve
              linter with
          | error fault => exact .inl ⟨_, rfl, .profile s linter fault hs hlinter hp⟩
          | ok p =>
              have hfinds : w.Finds r config p := ⟨s, linter, hs, hlinter, hp⟩
              show (∃ failure, w.textToCheck r.file p = _ ∧ _) ∨
                ∃ q content, w.textToCheck r.file p = _ ∧ _
              rw [Surroundings.textToCheck]
              cases htext : w.readText r.file with
              | error fault => exact .inl ⟨_, rfl, .file p fault hfinds htext⟩
              | ok text => exact .inr ⟨p, text, rfl, hfinds, rfl⟩

/-- Every check comes to what a check can come to. -/
theorem check_checked (w : Surroundings) (r : CheckRequest) (config : Option String) :
    Checked w r config (w.check r config) := by
  rw [Surroundings.check]
  rcases prepareCheck_cases w r config with
    ⟨failure, hcheck, hobstacle⟩ | ⟨p, text, hcheck, hp, htext⟩
  · rw [hcheck]
    exact .unready hobstacle rfl rfl rfl
  · have hquiet : ∀ i ∈ (DockerEnvironment.initial.prepare w.launch ⟨r.docker, r.machine⟩).2,
        i.isExec = false := fun _ => DockerEnvironment.not_isExec_of_mem_prepare
    rcases hdocker : DockerEnvironment.initial.prepare w.launch ⟨r.docker, r.machine⟩ with
      ⟨⟨docker, fault | ⟨⟩⟩, asked⟩
    · rw [hdocker] at hquiet
      simp only [hcheck, hdocker]
      have hobstacle : Obstacle w r config := .docker p text fault hp htext (by rw [hdocker])
      exact .unprepared p text hp htext hobstacle rfl rfl hquiet
    · have hready : w.Readies r config p text docker asked := ⟨hp, htext, hdocker⟩
      have hexec : docker.exec w.launch p text =
        ((docker.exec w.launch p text).1, [docker.execRequest p text]) := rfl
      simp only [hcheck, hdocker]
      rw [hexec]
      cases hrun : (docker.exec w.launch p text).1 with
      | error fault =>
          exact .stopped p text docker asked hready
            (.run p text docker asked fault hready hrun) rfl rfl rfl
      | ok o =>
          cases hdaemon : o.daemonError with
          | some message =>
              simp only [hdaemon]
              exact .stopped p text docker asked hready
                (.daemon p text docker asked o message hready hrun hdaemon) rfl rfl rfl
          | none =>
              simp only [hdaemon]
              exact .reported p text docker asked o hready hrun hdaemon rfl

/-! ## The exit code -/

theorem Surroundings.Finds.unique {q : Profile} (hp : w.Finds r config p)
    (hq : w.Finds r config q) : p = q := by
  obtain ⟨s, linter, hs, hlinter, hresolve⟩ := hp
  obtain ⟨s', linter', hs', hlinter', hresolve'⟩ := hq
  cases hs.symm.trans hs'
  cases hlinter.symm.trans hlinter'
  exact Except.ok.inj (hresolve.symm.trans hresolve')

theorem Surroundings.Readies.run_unique {q : Profile} {content : String}
    {docker' : DockerEnvironment} {asked' : List Invocation}
    (h : w.Readies r config p text docker asked)
    (h' : w.Readies r config q content docker' asked') :
    docker'.exec w.launch q content = docker.exec w.launch p text := by
  obtain rfl := h.profile.unique h'.profile
  cases h.file.symm.trans h'.file
  cases h.docker.symm.trans h'.docker
  rfl

/-- A check that gives a report has met no obstacle. -/
theorem not_obstacle {o : Outcome} (hready : w.Readies r config p text docker asked)
    (hrun : (docker.exec w.launch p text).1 = .ok o) (hdaemon : o.daemonError = none) :
    ¬ Obstacle w r config := by
  obtain ⟨s, linter, hs, hlinter, hp⟩ := hready.profile
  intro hobstacle
  cases hobstacle with
  | settings failure h => cases hs.symm.trans h
  | choice s' failure hs' h =>
      cases hs.symm.trans hs'
      cases hlinter.symm.trans h
  | profile s' linter' fault hs' hlinter' h =>
      cases hs.symm.trans hs'
      cases hlinter.symm.trans hlinter'
      cases hp.symm.trans h
  | file q fault _ h => cases hready.file.symm.trans h
  | docker q content fault _ _ h =>
      rw [hready.docker] at h
      cases h
  | run q content docker' asked' fault hready' h =>
      rw [hready.run_unique hready', hrun] at h
      cases h
  | daemon q content docker' asked' o' message hready' h hmessage =>
      rw [hready.run_unique hready', hrun] at h
      cases h
      cases hdaemon.symm.trans hmessage

/-- A report ends with 1 if there is an error among its diagnostics, and with 0 if there is
none. -/
theorem exitCode_report_iff (w : Surroundings) (format : ReportFormat) (source : String)
    (linter : Linter) (ds : List Diagnostic) (asked : List Invocation) :
    ((w.report format source linter ds asked).exitCode = 1 ↔ ∃ d ∈ ds, d.severity = .error) ∧
      ((w.report format source linter ds asked).exitCode = 0 ↔
        ∀ d ∈ ds, d.severity ≠ .error) := by
  rw [exitCode_report]
  cases hany : ds.any Diagnostic.isError with
  | true =>
      have herror : ∃ d ∈ ds, d.severity = .error := by simpa [Diagnostic.isError] using hany
      refine ⟨iff_of_true rfl herror, iff_of_false (by decide) fun hclean => ?_⟩
      obtain ⟨d, hd, hseverity⟩ := herror
      exact hclean d hd hseverity
  | false =>
      have hclean : ∀ d ∈ ds, d.severity ≠ .error := by simpa [Diagnostic.isError] using hany
      refine ⟨iff_of_false (by decide) ?_, iff_of_true rfl hclean⟩
      rintro ⟨d, hd, hseverity⟩
      exact hclean d hd hseverity

namespace Checked

variable {finished : Finished}

theorem exitCode_eq_two_iff (h : Checked w r config finished) :
    finished.exitCode = 2 ↔ Obstacle w r config := by
  cases h with
  | unready hobstacle hcode => exact iff_of_true hcode hobstacle
  | unprepared _ _ _ _ hobstacle hcode => exact iff_of_true hcode hobstacle
  | stopped _ _ _ _ _ hobstacle hcode => exact iff_of_true hcode hobstacle
  | reported p text docker asked o hready hrun hdaemon hfinished =>
      refine iff_of_false ?_ (not_obstacle hready hrun hdaemon)
      rw [hfinished, exitCode_report]
      split <;> decide

theorem stdout_eq (h : Checked w r config finished) (hobstacle : Obstacle w r config) :
    finished.stdout = "" := by
  cases h with
  | unready _ _ hprinted => exact hprinted
  | unprepared _ _ _ _ _ _ hprinted => exact hprinted
  | stopped _ _ _ _ _ _ _ hprinted => exact hprinted
  | reported _ _ _ _ _ hready hrun hdaemon =>
      exact absurd hobstacle (not_obstacle hready hrun hdaemon)

/-- Without an obstacle the diagnostics of the run are reported. -/
theorem reports (h : Checked w r config finished) (hclear : ¬ Obstacle w r config) :
    ∃ p text docker asked o, w.Readies r config p text docker asked ∧
      (docker.exec w.launch p text).1 = .ok o ∧
      finished = w.report r.format r.file p.linter o.diagnostics
        (asked ++ [docker.execRequest p text]) := by
  cases h with
  | unready hobstacle => exact absurd hobstacle hclear
  | unprepared _ _ _ _ hobstacle => exact absurd hobstacle hclear
  | stopped _ _ _ _ _ hobstacle => exact absurd hobstacle hclear
  | reported p text docker asked o hready hrun _ hfinished =>
      exact ⟨p, text, docker, asked, o, hready, hrun, hfinished⟩

theorem finds_of_asked (h : Checked w r config finished) (hasked : finished.asked ≠ []) :
    ∃ p text, w.Finds r config p ∧ w.readText r.file = .ok text := by
  cases h with
  | unready _ _ _ hnone => exact absurd hnone hasked
  | unprepared p text hp htext => exact ⟨p, text, hp, htext⟩
  | stopped p text _ _ hready => exact ⟨p, text, hready.profile, hready.file⟩
  | reported p text _ _ _ hready => exact ⟨p, text, hready.profile, hready.file⟩

/-- What is run in a container comes after all that docker was prepared with. -/
theorem readies_of_exec (h : Checked w r config finished) {i : Invocation}
    (hi : i ∈ finished.asked) (hexec : i.isExec = true) :
    ∃ p text docker asked, w.Readies r config p text docker asked ∧
      i = docker.execRequest p text ∧ finished.asked = asked ++ [i] := by
  have hlast : ∀ {p text docker asked}, w.Readies r config p text docker asked →
      finished.asked = asked ++ [docker.execRequest p text] → i = docker.execRequest p text := by
    intro p text docker asked hready hasked
    rw [hasked] at hi
    refine List.mem_singleton.mp ((List.mem_append.mp hi).resolve_left fun hearly => ?_)
    have hasked' : i ∈ (DockerEnvironment.initial.prepare w.launch ⟨r.docker, r.machine⟩).2 := by
      rwa [hready.docker]
    cases hexec.symm.trans (DockerEnvironment.not_isExec_of_mem_prepare hasked')
  cases h with
  | unready _ _ _ hnone =>
      rw [hnone] at hi
      cases hi
  | unprepared _ _ _ _ _ _ _ hquiet => cases hexec.symm.trans (hquiet i hi)
  | stopped p text docker asked hready _ _ _ hasked =>
      obtain rfl := hlast hready hasked
      exact ⟨p, text, docker, asked, hready, rfl, hasked⟩
  | reported p text docker asked o hready _ _ hfinished =>
      have hasked : finished.asked = asked ++ [docker.execRequest p text] := by
        rw [hfinished]
        cases r.format <;> rfl
      obtain rfl := hlast hready hasked
      exact ⟨p, text, docker, asked, hready, rfl, hasked⟩

end Checked

/-- A check ends with 2 exactly if it meets an obstacle, and then it prints nothing on its
standard output. Otherwise it prints the diagnostics of the run, in the form that is wanted, and
ends with 1 if there is an error among them, and with 0 if there is none. No program is asked for
unless the profile was found and the file was read, and nothing is run in a container unless
docker was prepared; that is asked for last. -/
theorem check_exitCode (w : Surroundings) (r : CheckRequest) (config : Option String) :
    let finished := (Request.run (.check r) config).perform w
    (finished.exitCode = 2 ↔ Obstacle w r config) ∧
    (Obstacle w r config → finished.stdout = "") ∧
    (¬ Obstacle w r config → ∃ p text docker asked o,
      w.Readies r config p text docker asked ∧ (docker.exec w.launch p text).1 = .ok o ∧
      (finished.exitCode = 1 ↔ ∃ d ∈ o.diagnostics, d.severity = .error) ∧
      (finished.exitCode = 0 ↔ ∀ d ∈ o.diagnostics, d.severity ≠ .error) ∧
      (r.format = .text → finished.stdout = renderText w.coloured r.file o.diagnostics) ∧
      (r.format = .json → finished.stdout = renderJson r.file p.linter o.diagnostics ++ "\n")) ∧
    (finished.asked ≠ [] → ∃ p text, w.Finds r config p ∧ w.readText r.file = .ok text) ∧
    ∀ i ∈ finished.asked, i.isExec = true → ∃ p text docker asked,
      w.Readies r config p text docker asked ∧ i = docker.execRequest p text ∧
        finished.asked = asked ++ [i] := by
  intro finished
  have hchecked : Checked w r config finished := check_checked w r config
  refine ⟨hchecked.exitCode_eq_two_iff, hchecked.stdout_eq, fun hclear => ?_,
    hchecked.finds_of_asked, fun i => hchecked.readies_of_exec⟩
  obtain ⟨p, text, docker, asked, o, hready, hrun, hfinished⟩ := hchecked.reports hclear
  obtain ⟨hone, hzero⟩ := exitCode_report_iff w r.format r.file p.linter o.diagnostics
    (asked ++ [docker.execRequest p text])
  rw [← hfinished] at hone hzero
  refine ⟨p, text, docker, asked, o, hready, hrun, hone, hzero, fun hformat => ?_,
    fun hformat => ?_⟩
  · rw [hfinished, hformat]
    rfl
  · rw [hfinished, hformat]
    rfl

end CommandLine

end ContainerLint
