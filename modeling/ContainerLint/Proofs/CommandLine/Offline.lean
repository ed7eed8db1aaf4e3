import ContainerLint.Docker.Toolbox
import ContainerLint.Proofs.Run.Outcomes
import ContainerLint.Proofs.Settings.Surfaces

/-!
# Checking a file and reading what was printed

A check runs a linter and collects what it prints in pieces of bytes; reading takes the same text
as a whole. `check_parse` says that both report the same of a linter that prints on its standard
output only, but for what the pattern finds in the error output, which is empty: a pattern that
matches the empty text finds something there (`not_alike_emptyLine`).
-/

namespace ContainerLint

open Utf8 (encode)

/-! ## Runs with standard output only -/

theorem LineBuffer.decoded_encode (text : String) : decoded (encode text.toList) = text := by
  rw [decoded, Utf8.decodeLossy_encode, String.ofList_toList]

variable {p : Profile} {chunks : List Chunk} {text : String}

/-- In whatever pieces a text comes on standard output, it is all the output. -/
theorem output_stdout (exitCode : Option Int)
    (hout : Stream.stdout.bytes chunks = encode text.toList)
    (herr : Stream.stderr.bytes chunks = []) :
    (Outcome.ofChunks p chunks exitCode).output = text := by
  obtain ⟨hstdout, hstderr, merged, houtput, hmerged⟩ := collected_foldl chunks
  obtain ⟨hparts, hcomplete, -⟩ := LineBuffer.parts_spec (Stream.stdout.bytes chunks)
  rw [herr] at hstderr
  -- Nothing is put between the lines of standard output, and nothing after them.
  rw [hstdout, hstderr] at hmerged
  rw [hmerged.eq_left, Text.flatten_fullLines (StreamText.closed_text _)] at houtput
  rw [Outcome.ofChunks, Collector.finish, hstderr, hstdout, String.toList_inj.mp houtput,
    StreamText.finish_ofBytes, StreamText.finish_ofBytes]
  refine String.append_empty.trans ?_
  rw [StreamText.ofBytes, ← LineBuffer.decoded_append hcomplete, ← hparts, hout,
    LineBuffer.decoded_encode]

/-- In no line of a text docker reports a fault of its own. -/
def NoDaemonLine (text : String) : Prop :=
  ∀ line ∈ Text.lines text.toList, isDaemonLine line = false

theorem daemonError?_eq_none (h : NoDaemonLine text) : daemonError? text = none := by
  rw [daemonError?_eq_find, List.find?_eq_none.mpr fun line hmem => by simp [h line hmem]]
  rfl

/-- The diagnostic about the exit status, if the profile wants it. -/
def Profile.statusReport (p : Profile) (exitCode : Option Int) (output : String) :
    List Diagnostic :=
  if p.reportExitStatus then [exitStatusDiagnostic p.linter.name exitCode output] else []

/-- What comes of a text on standard output, in whatever pieces it comes. The pattern is tried on
the error output too, which is empty. -/
theorem ofChunks_stdout (exitCode : Option Int)
    (hout : Stream.stdout.bytes chunks = encode text.toList)
    (herr : Stream.stderr.bytes chunks = []) (hdaemon : NoDaemonLine text) :
    Outcome.ofChunks p chunks exitCode =
      ⟨p.extractor.extract text ++ p.extractor.extract "" ++ p.statusReport exitCode text, none,
        exitCode, text⟩ := by
  have houtput := output_stdout (p := p) exitCode hout herr
  have hnone : (Outcome.ofChunks p chunks exitCode).daemonError = none := by
    rw [daemonError_ofChunks, houtput, daemonError?_eq_none hdaemon]
  have hstatus : (Outcome.ofChunks p chunks exitCode).exitStatus p =
      p.statusReport exitCode text := by
    rw [Outcome.exitStatus, Profile.statusReport, houtput]
    simp only [hnone, true_and]
    rfl
  have hdiagnostics := diagnostics_ofChunks p chunks exitCode
  rw [hstatus, Profile.extracted, hout, herr, LineBuffer.decoded_encode] at hdiagnostics
  have hcode : (Outcome.ofChunks p chunks exitCode).exitCode = exitCode := rfl
  generalize Outcome.ofChunks p chunks exitCode = o at hdiagnostics hnone hcode houtput
  obtain ⟨diagnostics, daemonError, code, output⟩ := o
  exact Outcome.mk.injEq .. ▸ ⟨hdiagnostics, hnone, hcode, houtput⟩

/-- A program printed a text on its standard output and nothing on its error output, and docker
reports no fault in the text. -/
structure Ended.Prints (ended : Ended) (text : String) : Prop where
  stdout : ended.stdout = encode text.toList
  stderr : ended.stderr = []
  noDaemonLine : NoDaemonLine text

variable {ended : Ended} {docker : DockerEnvironment} {launch : Launcher} {content : String}

/-- A run comes to the same in whatever pieces the text comes. -/
theorem exec_of_prints (hprints : ended.Prints text)
    (hstart : launch.start (docker.execRequest p content) = .ok ended)
    (hout : Stream.stdout.bytes chunks = ended.stdout)
    (herr : Stream.stderr.bytes chunks = ended.stderr) :
    docker.exec launch p content =
        (.ok (.ofChunks p chunks ended.status.code?), [docker.execRequest p content]) ∧
      Outcome.ofChunks p chunks ended.status.code? =
        ⟨p.extractor.extract text ++ p.extractor.extract "" ++
          p.statusReport ended.status.code? text, none, ended.status.code?, text⟩ := by
  have houtcome := ofChunks_stdout (p := p) ended.status.code? (hout.trans hprints.stdout)
    (herr.trans hprints.stderr) hprints.noDaemonLine
  refine ⟨?_, houtcome⟩
  rw [DockerEnvironment.exec, hstart, DockerEnvironment.execAnswer, houtcome,
    ofChunks_stdout _ hprints.stdout hprints.stderr hprints.noDaemonLine]

/-! ## The profile and its extractor -/

theorem ProfileSettings.extractor_of_resolve {s : ProfileSettings} {linter : Linter}
    (h : s.resolve linter = .ok p) :
    p.linter = linter ∧ s.extractor linter = .ok p.extractor := by
  rw [resolve] at h
  cases hcontainer : s.containerName with
  | none => simp [hcontainer] at h
  | some container =>
      cases hcommand : (s.arguments linter).isEmpty with
      | true => simp [hcontainer, hcommand] at h
      | false =>
          simp only [hcontainer, hcommand, Bool.false_eq_true, if_false] at h
          obtain ⟨e, hextractor, h⟩ := bind_eq_ok.mp h
          cases h
          exact ⟨rfl, hextractor⟩

theorem Settings.profileSettings_setContainer (s : Settings) (linter : Linter)
    (container : String) :
    (s.setContainer linter container).profileSettings linter =
      { s.profileSettings linter with container := some container } := by
  cases linter <;> rfl

/-- The container does not matter for how the output is read. -/
theorem Settings.extractor_setContainer (s : Settings) (linter : Linter) (container : String) :
    ((s.setContainer linter container).profileSettings linter).extractor linter =
      (s.profileSettings linter).extractor linter := by
  rw [profileSettings_setContainer]
  rfl

namespace CommandLine

variable {w v : Surroundings} {r : CheckRequest} {q : ParseRequest} {config other : Option String}
  {source : String}

theorem orBadSettings_eq_ok {α : Type} {x : Except ConfigFault α} {a : α} :
    orBadSettings x = .ok a ↔ x = .ok a := by
  cases x <;> simp [orBadSettings]

/-- The extractor of the profile of a check is that of the linter that is named, or chosen, in the
settings. -/
theorem exists_extractor_of_prepareCheck (h : w.prepareCheck r config = .ok (p, content)) :
    ∃ s, w.settings config = .ok s ∧ chooseLinter s r.profile = .ok p.linter ∧
      (s.profileSettings p.linter).extractor p.linter = .ok p.extractor := by
  rw [prepareCheck_eq] at h
  obtain ⟨s, hs, h⟩ := bind_eq_ok.mp h
  obtain ⟨linter, hlinter, h⟩ := bind_eq_ok.mp h
  obtain ⟨profile, hprofile, h⟩ := bind_eq_ok.mp h
  obtain rfl := (textToCheck_eq_ok.mp h).1
  obtain ⟨rfl, hextractor⟩ :=
    ProfileSettings.extractor_of_resolve (orBadSettings_eq_ok.mp hprofile)
  refine ⟨s, hs, hlinter, ?_⟩
  cases hcontainer : r.container with
  | none => rwa [hcontainer] at hextractor
  | some container =>
      rw [hcontainer, withContainer, Settings.extractor_setContainer] at hextractor
      exact hextractor

/-- What is parsed with the same settings and the same linter. -/
theorem parsed_of_prepareCheck (h : w.prepareCheck r config = .ok (p, content))
    (hsettings : v.settings other = w.settings config) (hprofile : q.profile = r.profile)
    (hsource : v.sourceText q.input = .ok (source, text)) :
    v.parsed q other = .ok (p.linter, source, p.extractor.extract text) := by
  obtain ⟨s, hs, hlinter, hextractor⟩ := exists_extractor_of_prepareCheck h
  rw [Surroundings.parsed, hsettings, hs, hprofile]
  simp only [bind, Except.bind, hlinter, hextractor, orBadSettings, hsource]

/-- How a command ends that reports diagnostics. -/
theorem exitCode_report (w : Surroundings) (format : ReportFormat) (source : String)
    (linter : Linter) (ds : List Diagnostic) (asked : List Invocation) :
    (w.report format source linter ds asked).exitCode =
      if ds.any Diagnostic.isError then 1 else 0 := by
  cases format <;> rfl

theorem any_isError_statusReport (p : Profile) (exitCode : Option Int) (output : String) :
    (p.statusReport exitCode output).any Diagnostic.isError = false := by
  rw [Profile.statusReport]
  split <;> rfl

/-- A check of a file on which a linter prints a text reports what is found in the text, what is
found in the empty text, and the exit status. -/
theorem check_of_prints {asked : List Invocation}
    (hcheck : w.prepareCheck r config = .ok (p, content))
    (hdocker : DockerEnvironment.initial.prepare w.launch ⟨r.docker, r.machine⟩ =
      ((docker, .ok ()), asked))
    (hstart : w.launch.start (docker.execRequest p content) = .ok ended)
    (hprints : ended.Prints text) :
    w.check r config =
      w.report r.format r.file p.linter (p.extractor.extract text ++ p.extractor.extract "" ++
        p.statusReport ended.status.code? text) (asked ++ [docker.execRequest p content]) := by
  obtain ⟨hexec, houtcome⟩ := exec_of_prints hprints hstart rfl rfl
  rw [Surroundings.check, hcheck]
  simp only [hdocker, hexec, houtcome]

/-- The exit status does not count among the errors. -/
theorem exitCode_report_append (w v : Surroundings) (format other : ReportFormat)
    (source name : String) (linter : Linter) (found more : List Diagnostic)
    (exitCode : Option Int)
    (output : String) (asked more' : List Invocation) :
    (w.report format source linter (found ++ more ++ p.statusReport exitCode output)
        asked).exitCode =
      if more.any Diagnostic.isError then 1
      else (v.report other name linter found more').exitCode := by
  rw [exitCode_report, exitCode_report, List.any_append, List.any_append,
    any_isError_statusReport, Bool.or_false]
  cases found.any Diagnostic.isError <;> cases more.any Diagnostic.isError <;> rfl

/-- A linter prints a text on its standard output and nothing on its error output, and docker
reports no fault in the text. Then a check reports what is read from the text with the same
settings, in the same order, and after it what the pattern finds in the empty text, which is the
error output, and the exit status if the profile wants it. It does not matter in which pieces the
text comes or how the linter ends. The exit codes are the same, unless an error is found in the
empty text; a pattern that finds nothing there makes no difference at all. -/
theorem check_parse {asked : List Invocation}
    (hcheck : w.prepareCheck r config = .ok (p, content))
    (hdocker : DockerEnvironment.initial.prepare w.launch ⟨r.docker, r.machine⟩ =
      ((docker, .ok ()), asked))
    (hstart : w.launch.start (docker.execRequest p content) = .ok ended)
    (hprints : ended.Prints text)
    (hsettings : v.settings other = w.settings config) (hprofile : q.profile = r.profile)
    (hsource : v.sourceText q.input = .ok (source, text)) :
    let found := p.extractor.extract text
    let ofNothing := p.extractor.extract ""
    let status := p.statusReport ended.status.code? text
    let request := docker.execRequest p content
    v.parse q other = v.report q.format source p.linter found [] ∧
      (∀ chunks, Stream.stdout.bytes chunks = ended.stdout →
        Stream.stderr.bytes chunks = ended.stderr →
          docker.exec w.launch p content =
              (.ok (.ofChunks p chunks ended.status.code?), [request]) ∧
            (Outcome.ofChunks p chunks ended.status.code?).diagnostics =
              found ++ ofNothing ++ status) ∧
      w.check r config =
        w.report r.format r.file p.linter (found ++ ofNothing ++ status) (asked ++ [request]) ∧
      (w.check r config).exitCode =
        (if ofNothing.any Diagnostic.isError then 1 else (v.parse q other).exitCode) ∧
      (ofNothing = [] →
        w.check r config =
            w.report r.format r.file p.linter (found ++ status) (asked ++ [request]) ∧
          (w.check r config).exitCode = (v.parse q other).exitCode) := by
  intro found ofNothing status request
  have hparse : v.parse q other = v.report q.format source p.linter found [] := by
    rw [Surroundings.parse, parsed_of_prepareCheck hcheck hsettings hprofile hsource]
  have hwhole : w.check r config =
      w.report r.format r.file p.linter (found ++ ofNothing ++ status) (asked ++ [request]) :=
    check_of_prints hcheck hdocker hstart hprints
  have hcode : (w.check r config).exitCode =
      (if ofNothing.any Diagnostic.isError then 1 else (v.parse q other).exitCode) := by
    rw [hwhole, hparse]
    exact exitCode_report_append ..
  refine ⟨hparse, fun chunks hout herr => ?_, hwhole, hcode, fun hnothing => ?_⟩
  · obtain ⟨hexec, houtcome⟩ := exec_of_prints hprints hstart hout herr
    exact ⟨hexec, congrArg Outcome.diagnostics houtcome⟩
  · rw [hnothing, List.append_nil] at hwhole
    rw [hnothing] at hcode
    exact ⟨hwhole, hcode⟩

/-- A project with a settings file and a file to check, where docker runs a linter that prints a
text and ends well. The same text is on the standard input. -/
def rehearsed (settings file content printed : String) : Surroundings :=
  { projectOnly settings with
    contents := fun path =>
      if path = file then .ok (encode content.toList) else (projectOnly settings).contents path
    input := encode printed.toList
    launch := Toolbox.launcher
      ⟨some ⟨⟨encode printed.toList, [], .exited 0, true⟩, ⟨[], [], .exited 0, false⟩⟩,
        none, []⟩ }

/-- A pattern that needs a letter finds nothing in the empty text, and all is read alike. -/
theorem check_parse_letter :
    let w := rehearsed chosenText "a.py" "y" "x"
    let run : Invocation := ⟨"docker", ["exec", "-i", "py", "flake8", "-"], [], some "y"⟩
    ∃ p, w.prepareCheck ⟨"a.py", none, none, none, none, .text⟩ none = .ok (p, "y") ∧
      w.launch.start run = .ok ⟨[⟨.stdout, encode "x".toList⟩], .exited 0⟩ ∧
      p.extractor.extract "" = [] ∧
      (w.check ⟨"a.py", none, none, none, none, .text⟩ none).exitCode =
        (w.parse ⟨none, none, .json⟩ none).exitCode := by
  intro w run
  obtain ⟨p, hresolve, hcontainer, hcommand, hempty⟩ := resolve_chosenSettings
  have hsettings : w.settings none = .ok chosenSettings := by
    have hfile : (none <|> w.settingsFiles.find? w.isFile) = some projectSettings := by rfl
    have htext : w.readText projectSettings = .ok chosenText := readText_projectOnly chosenText
    obtain ⟨tree, htree, hdecode⟩ := parse_chosenText
    rw [settings_of_tree hfile htext htree, hdecode]
  have hcheck : w.prepareCheck ⟨"a.py", none, none, none, none, .text⟩ none = .ok (p, "y") := by
    rw [prepareCheck_chosen rfl rfl, hsettings]
    show chosenProfile chosenSettings >>= w.textToCheck "a.py" = _
    rw [chosenProfile_eq, hresolve]
    show w.textToCheck "a.py" p = _
    have hcontent : w.readText "a.py" = .ok "y" := textOf_encode "y"
    rw [Surroundings.textToCheck, hcontent]
  have hsource : w.sourceText none = .ok ("-", "x") := by
    have hinput : Surroundings.textOf w.input = .ok "x" := textOf_encode "x"
    rw [Surroundings.sourceText, hinput]
  have hdocker : DockerEnvironment.initial.prepare w.launch ⟨none, none⟩ =
      ((.initial, .ok ()), [DockerEnvironment.initial.probeRequest]) := by decide +kernel
  have hrun : DockerEnvironment.initial.execRequest p "y" = run := by
    rw [DockerEnvironment.execRequest, hcontainer, hcommand]
    rfl
  have hstart : w.launch.start run = .ok ⟨[⟨.stdout, encode "x".toList⟩], .exited 0⟩ := by
    decide +kernel
  have hprints : (⟨[⟨.stdout, encode "x".toList⟩], .exited 0⟩ : Ended).Prints "x" := by
    refine ⟨rfl, rfl, ?_⟩
    rw [NoDaemonLine]
    decide +kernel
  obtain ⟨-, -, -, -, halike⟩ := check_parse (q := ⟨none, none, .json⟩) hcheck hdocker
    (hrun.symm ▸ hstart) hprints rfl rfl hsource
  exact ⟨p, hcheck, hstart, hempty, (halike hempty).2⟩

/-- Settings with a pattern that matches the empty line, and nothing else. -/
def emptyLineText : String :=
  "[perl]\ncontainer = \"pl\"\npattern = \"^()$\"\nlineGroup = 1\nmessageGroup = 1\n" ++
    "reportExitStatus = false\n"

/-- A linter prints a text, and nothing on its error output. No diagnostic is read from the text;
but a check reports one, which it finds in the empty error output, and ends with another exit
code. -/
theorem not_alike_emptyLine :
    let w := rehearsed emptyLineText "a.pl" "x" "ok"
    let probe : Invocation := DockerEnvironment.initial.probeRequest
    let run : Invocation := ⟨"docker", ["exec", "-i", "pl", "perl", "-c"], [], some "x"⟩
    NoDaemonLine "ok" ∧
      w.launch.start run = .ok ⟨[⟨.stdout, encode "ok".toList⟩], .exited 0⟩ ∧
      w.parse ⟨none, none, .text⟩ none = ⟨0, "", "0 error(s), 0 warning(s)\n", []⟩ ∧
      w.check ⟨"a.pl", none, none, none, none, .text⟩ none =
        ⟨1, "a.pl:?: error: \n", "1 error(s), 0 warning(s)\n", [probe, run]⟩ := by
  intro w probe run
  refine ⟨?_, ?_⟩
  · rw [NoDaemonLine]
    decide +kernel
  · decide +kernel

end CommandLine

end ContainerLint
