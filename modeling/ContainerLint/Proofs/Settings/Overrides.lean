import ContainerLint.Proofs.CommandLine.ExitCodes
import ContainerLint.Proofs.Settings.Objections
import ContainerLint.Proofs.Settings.Selection

/-!
# Containers that override the settings

The command line can name a container, which then takes the place of the one in the settings.
`setEntry` writes one entry and leaves all else as it is; since nothing is looked up but entries,
`setContainer_overrides` follows: how the container of a linter is replaced, which linters are
configured after that, and that a check runs the linter as the settings have it, but in the
container that is named.
-/

namespace ContainerLint

namespace Settings

variable {s t : Settings} {l k : Linter}

/-! ## Writing one entry -/

@[simp] theorem activeProfile_setEntry (s : Settings) (l : Linter) (e : ProfileEntry) :
    (s.setEntry l e).activeProfile = s.activeProfile := by
  cases l <;> rfl

@[simp] theorem entry_setEntry (s : Settings) (l : Linter) (e : ProfileEntry) :
    (s.setEntry l e).entry l = some e := by
  cases l <;> rfl

theorem entry_setEntry_of_ne (h : k ≠ l) (e : ProfileEntry) :
    (s.setEntry l e).entry k = s.entry k := by
  cases l <;> cases k <;> first | rfl | exact absurd rfl h

/-- Settings are the profile that is named and the entries. -/
theorem eq_of_entry (hactive : s.activeProfile = t.activeProfile)
    (hentry : ∀ l, s.entry l = t.entry l) : s = t := by
  have hperl : s.perl = t.perl := hentry .perl
  have hperlcritic : s.perlcritic = t.perlcritic := hentry .perlcritic
  have hflake8 : s.flake8 = t.flake8 := hentry .flake8
  have hrubocop : s.rubocop = t.rubocop := hentry .rubocop
  have hphp : s.php = t.php := hentry .php
  cases s
  cases t
  simp_all

/-- Of two entries for the same linter the last one counts. -/
theorem setEntry_setEntry (s : Settings) (l : Linter) (e f : ProfileEntry) :
    (s.setEntry l e).setEntry l f = s.setEntry l f := by
  refine eq_of_entry (by simp) fun k => ?_
  by_cases h : k = l
  · subst h
    simp
  · simp [entry_setEntry_of_ne h]

/-- Entries for different linters can be written in any order. -/
theorem setEntry_comm (h : k ≠ l) (e f : ProfileEntry) :
    (s.setEntry l e).setEntry k f = (s.setEntry k f).setEntry l e := by
  refine eq_of_entry (by simp) fun m => ?_
  by_cases hl : m = l
  · subst hl
    simp [entry_setEntry_of_ne h.symm]
  · by_cases hk : m = k
    · subst hk
      simp [entry_setEntry_of_ne h]
    · simp [entry_setEntry_of_ne hl, entry_setEntry_of_ne hk]

/-- What is looked up about a linter depends on its entry only. -/
theorem configuredEntry_congr (h : s.entry l = t.entry l) :
    s.configuredEntry l = t.configuredEntry l := by
  rw [configuredEntry, configuredEntry, h]

theorem profileSettings_congr (h : s.entry l = t.entry l) :
    s.profileSettings l = t.profileSettings l := by
  rw [profileSettings, profileSettings, configuredEntry_congr h]

/-! ## Which linters are configured -/

/-- If one member of a list is picked in addition, it comes where it has its place in the list. -/
theorem filter_inserted {α : Type} {all : List α} (hnodup : all.Nodup) {a : α} (ha : a ∈ all)
    {p q : α → Bool} (hp : p a = false) (hq : q a = true) (hother : ∀ b, b ≠ a → q b = p b) :
    ∃ before after, all.filter p = before ++ after ∧ all.filter q = before ++ a :: after := by
  obtain ⟨early, late, rfl⟩ := List.append_of_mem ha
  have hnot : a ∉ early ++ late := (List.nodup_cons.mp (List.perm_middle.nodup_iff.mp hnodup)).1
  rw [List.mem_append, not_or] at hnot
  have hsame : ∀ part : List α, a ∉ part → part.filter q = part.filter p := by
    intro part hpart
    exact List.filter_congr fun b hb => hother b fun heq => hpart (heq ▸ hb)
  refine ⟨early.filter p, late.filter p, ?_, ?_⟩
  · rw [List.filter_append, List.filter_cons_of_neg (by simp [hp])]
  · rw [List.filter_append, List.filter_cons_of_pos hq, hsame early hnot.1, hsame late hnot.2]

/-- The settings are others with the container of one linter replaced. The linter is configured
then, and comes among those that were configured before where it is listed. -/
structure Replaced (s t : Settings) (l : Linter) (container : String) : Prop where
  activeProfile : t.activeProfile = s.activeProfile
  entry_of_ne : ∀ k, k ≠ l → t.entry k = s.entry k
  mem_configured : l ∈ t.configured
  profileSettings : t.profileSettings l = { s.profileSettings l with container := some container }
  configured : l ∈ s.configured ∧ t.configured = s.configured ∨
    l ∉ s.configured ∧ t.configured.Sublist Linter.all ∧ ∃ before after,
      s.configured = before ++ after ∧ t.configured = before ++ l :: after

theorem replaced_setContainer (s : Settings) (l : Linter) (container : String) :
    s.Replaced (s.setContainer l container) l container := by
  have hother : ∀ k, k ≠ l → (s.setContainer l container).entry k = s.entry k :=
    fun k hk => entry_setEntry_of_ne hk _
  have hself : ((s.setContainer l container).configuredEntry l).isSome = true := by
    rw [configuredEntry, setContainer, entry_setEntry]
    rfl
  have hsame : ∀ k, k ≠ l → ((s.setContainer l container).configuredEntry k).isSome =
      (s.configuredEntry k).isSome :=
    fun k hk => congrArg Option.isSome (configuredEntry_congr (hother k hk))
  have hmem : ∀ u : Settings, l ∈ u.configured ↔ (u.configuredEntry l).isSome = true := by
    intro u
    rw [Settings.configured, List.mem_filter, and_iff_right l.mem_all]
  refine ⟨activeProfile_setEntry .., hother, (hmem _).mpr hself,
    s.profileSettings_setContainer l container, ?_⟩
  cases hbefore : (s.configuredEntry l).isSome with
  | true =>
      refine .inl ⟨(hmem s).mpr hbefore, List.filter_congr fun k _ => ?_⟩
      by_cases hk : k = l
      · rw [hk, hself, hbefore]
      · exact hsame k hk
  | false =>
      refine .inr ⟨by rw [hmem, hbefore]; exact Bool.false_ne_true, List.filter_sublist, ?_⟩
      exact filter_inserted (by decide) l.mem_all hbefore hself hsame

/-- Of two containers for the same linter the last one counts. -/
theorem setContainer_setContainer (s : Settings) (l : Linter) (c d : String) :
    (s.setContainer l c).setContainer l d = s.setContainer l d := by
  rw [setContainer, profileSettings_setContainer, setContainer, setEntry_setEntry]
  rfl

/-- Replacing the containers of two linters writes two entries, each with what was looked up at
first. -/
theorem setContainer_setContainer_of_ne (h : k ≠ l) (c d : String) :
    (s.setContainer l c).setContainer k d =
      (s.setEntry l (.custom { s.profileSettings l with container := some c })).setEntry k
        (.custom { s.profileSettings k with container := some d }) := by
  have hlookup : (s.setContainer l c).profileSettings k = s.profileSettings k :=
    profileSettings_congr (entry_setEntry_of_ne h _)
  rw [setContainer, hlookup]
  rfl

/-- Containers of different linters can be replaced in any order. -/
theorem setContainer_comm (h : k ≠ l) (c d : String) :
    (s.setContainer l c).setContainer k d = (s.setContainer k d).setContainer l c := by
  rw [setContainer_setContainer_of_ne h, setContainer_setContainer_of_ne h.symm, setEntry_comm h]

/-! ## The profile in a container -/

/-- The profile is that of a linter as settings have it, but in a container that is given. -/
structure InContainer (s : Settings) (l : Linter) (container : String) (p : Profile) : Prop where
  linter : p.linter = l
  container :
    p.container.toList = (container.toList.dropWhile Text.isBlank).rdropWhile Text.isBlank
  command : p.command = (s.profileSettings l).arguments l
  extractor : (s.profileSettings l).extractor l = .ok p.extractor
  reportExitStatus : p.reportExitStatus = (s.profileSettings l).reportExitStatus.getD true

end Settings

namespace ProfileSettings

/-- A container that is given counts as missing exactly if there is nothing but blanks in it. -/
theorem resolve_missing_iff (changes : ProfileSettings) (l : Linter) (container : String) :
    ({ changes with container := some container }).resolve l = .error (.missingContainer l) ↔
      ∀ c ∈ container.toList, Text.isBlank c = true := by
  have hname := containerName_eq_none_iff (s := { changes with container := some container })
  simp only [Option.some.injEq, forall_eq'] at hname
  rw [← hname]
  constructor
  · intro h
    rcases resolve_cases { changes with container := some container } l with
      ⟨fault, hfault, hfound⟩ | ⟨p, hp, -⟩
    · cases h.symm.trans hfault
      obtain ⟨check, -, hfinding⟩ := List.exists_of_findSome?_eq_some hfound
      cases finding_eq_some_iff.mp hfinding with
      | absent habsent => cases habsent
      | blank text htext hblank =>
          cases htext
          exact hname.mpr hblank
    · cases h.symm.trans hp
  · intro h
    rw [resolve, h]

end ProfileSettings

namespace Settings

variable {s : Settings} {l : Linter} {container : String} {p q : Profile}

theorem InContainer.unique (hp : s.InContainer l container p) (hq : s.InContainer l container q) :
    p = q := by
  have hcontainer : p.container = q.container :=
    String.toList_injective (hp.container.trans hq.container.symm)
  obtain ⟨linter, name, command, extractor, report⟩ := p
  obtain ⟨linter', name', command', extractor', report'⟩ := q
  cases hp.linter.trans hq.linter.symm
  cases hcontainer
  cases hp.command.trans hq.command.symm
  cases hp.extractor.symm.trans hq.extractor
  cases hp.reportExitStatus.trans hq.reportExitStatus.symm
  rfl

/-- With its container replaced, the profile of a linter is made of what the settings have about
it otherwise. -/
theorem resolve_setContainer_iff :
    ((s.setContainer l container).profileSettings l).resolve l = .ok p ↔
      (∃ c ∈ container.toList, Text.isBlank c = false) ∧ p.command ≠ [] ∧
        s.InContainer l container p := by
  have hmissing := ProfileSettings.resolve_missing_iff (s.profileSettings l) l container
  rw [profileSettings_setContainer]
  by_cases hblank : ∀ c ∈ container.toList, Text.isBlank c = true
  · rw [hmissing.mpr hblank]
    refine iff_of_false (by simp) ?_
    rintro ⟨⟨c, hc, hnot⟩, -⟩
    cases (hblank c hc).symm.trans hnot
  · have hnot : ∃ c ∈ container.toList, Text.isBlank c = false := by simpa using hblank
    have hname : ProfileSettings.containerName
        { s.profileSettings l with container := some container } = some (trimmed container) := by
      refine if_neg fun hempty => hblank ?_
      rw [← Text.trim_eq_nil_iff]
      simpa [trimmed] using hempty
    have hmade : ∀ e, (s.profileSettings l).extractor l = .ok e →
        s.InContainer l container ⟨l, trimmed container, (s.profileSettings l).arguments l, e,
          (s.profileSettings l).reportExitStatus.getD true⟩ := by
      refine fun e he => ⟨rfl, ?_, rfl, he, rfl⟩
      rw [← Text.trim_eq, trimmed, String.toList_ofList]
    have hresolve : ProfileSettings.resolve
        { s.profileSettings l with container := some container } l =
          if ((s.profileSettings l).arguments l).isEmpty then .error (.emptyCommand l)
          else (s.profileSettings l).extractor l >>= fun e =>
            .ok ⟨l, trimmed container, (s.profileSettings l).arguments l, e,
              (s.profileSettings l).reportExitStatus.getD true⟩ := by
      rw [ProfileSettings.resolve, hname]
      rfl
    rw [hresolve, and_iff_right hnot]
    constructor
    · intro h
      split at h
      · cases h
      · rename_i hcommand
        obtain ⟨e, he, h⟩ := bind_eq_ok.mp h
        cases h
        exact ⟨by simpa using hcommand, hmade e he⟩
    · rintro ⟨hcommand, hp⟩
      rw [hp.command] at hcommand
      rw [if_neg (by simpa using hcommand), hp.extractor]
      exact congrArg Except.ok ((hmade _ hp.extractor).unique hp)

end Settings

namespace CommandLine

variable {w : Surroundings} {r : CheckRequest} {config : Option String} {s : Settings}
  {l : Linter} {container : String}

/-- A check runs a linter as settings have it, but in a container that is given, and reports what
comes of that. It says that the container is missing exactly if there is nothing but blanks in it;
otherwise it gets as far as the run if the settings have a command and can be used to read what
the linter prints, and the file can be read. -/
structure RunsIn (w : Surroundings) (r : CheckRequest) (config : Option String) (s : Settings)
    (l : Linter) (container : String) : Prop where
  missing : w.prepareCheck r config = .error (.badSettings (.missingContainer l)) ↔
    ∀ c ∈ container.toList, Text.isBlank c = true
  failed : (∀ c ∈ container.toList, Text.isBlank c = true) →
    w.check r config = w.failed (.badSettings (.missingContainer l)) []
  prepared : ∀ p text, w.prepareCheck r config = .ok (p, text) ↔
    (∃ c ∈ container.toList, Text.isBlank c = false) ∧ p.command ≠ [] ∧
      s.InContainer l container p ∧ w.readText r.file = .ok text
  run : ∀ i ∈ (w.check r config).asked, i.isExec = true →
    ∃ p, s.InContainer l container p ∧ i.arguments = ["exec", "-i", p.container] ++ p.command
  reported : (w.check r config).exitCode ≠ 2 → ∃ p text docker asked o,
    s.InContainer l container p ∧ w.readText r.file = .ok text ∧
      DockerEnvironment.initial.prepare w.launch ⟨r.docker, r.machine⟩ =
        ((docker, .ok ()), asked) ∧
      (docker.exec w.launch p text).1 = .ok o ∧
      w.check r config =
        w.report r.format r.file l o.diagnostics (asked ++ [docker.execRequest p text])

/-- A check for which a linter and a container are given runs that linter in that container. -/
theorem runsIn_of_choice (hs : w.settings config = .ok s)
    (hlinter : chooseLinter s r.profile = .ok l) (hcontainer : r.container = some container) :
    RunsIn w r config s l container := by
  have hprepare := prepareCheck_of_choice hs hlinter
  rw [hcontainer, withContainer] at hprepare
  have hmissing : w.prepareCheck r config = .error (.badSettings (.missingContainer l)) ↔
      ∀ c ∈ container.toList, Text.isBlank c = true := by
    rw [hprepare, ← ProfileSettings.resolve_missing_iff (s.profileSettings l) l container,
      ← Settings.profileSettings_setContainer]
    cases ((s.setContainer l container).profileSettings l).resolve l with
    | error fault =>
        show (.error (.badSettings fault) : Except Failure (Profile × String)) = _ ↔ _
        simp
    | ok p => exact iff_of_false (textToCheck_ne_badSettings w r.file p _) (by simp)
  have hfinds : ∀ p, w.Finds r config p → s.InContainer l container p := by
    rintro p ⟨s', l', hs', hlinter', hresolve⟩
    cases hs.symm.trans hs'
    cases hlinter.symm.trans hlinter'
    rw [hcontainer] at hresolve
    exact (Settings.resolve_setContainer_iff.mp hresolve).2.2
  refine ⟨hmissing, fun hblank => ?_, fun p text => ?_, fun i hi hexec => ?_, fun hcode => ?_⟩
  · rw [Surroundings.check, hmissing.mpr hblank]
  · rw [hprepare, bind_eq_ok]
    simp only [orBadSettings_eq_ok, Settings.resolve_setContainer_iff, textToCheck_eq_ok]
    constructor
    · rintro ⟨q, ⟨hnot, hcommand, hp⟩, rfl, htext⟩
      exact ⟨hnot, hcommand, hp, htext⟩
    · rintro ⟨hnot, hcommand, hp, htext⟩
      exact ⟨p, ⟨hnot, hcommand, hp⟩, rfl, htext⟩
  · obtain ⟨p, text, docker, asked, hready, rfl, -⟩ :=
      (check_checked w r config).readies_of_exec hi hexec
    exact ⟨p, hfinds p hready.profile, rfl⟩
  · have hchecked := check_checked w r config
    have hclear : ¬ Obstacle w r config := mt hchecked.exitCode_eq_two_iff.mpr hcode
    obtain ⟨p, text, docker, asked, o, hready, hrun, hfinished⟩ := hchecked.reports hclear
    have hp := hfinds p hready.profile
    exact ⟨p, text, docker, asked, o, hp, hready.file, hready.docker, hrun, hp.linter ▸ hfinished⟩

end CommandLine

/-- Replacing the container of a linter leaves the profile that is named and the other entries as
they are, and what is looked up about the linter but the container. The linter is configured then,
next to those that were configured before. Of two containers for one linter the last one counts,
and those of different linters can be given in any order. So a check runs the linter that is
named, or that the settings choose, in the container that is given, and all else as the settings
have it, even if several linters are configured by then. -/
theorem setContainer_overrides (s : Settings) (l : Linter) (c : String) :
    s.Replaced (s.setContainer l c) l c ∧
    (∀ d, (s.setContainer l c).setContainer l d = s.setContainer l d) ∧
    (∀ k d, k ≠ l →
      (s.setContainer l c).setContainer k d = (s.setContainer k d).setContainer l c) ∧
    ∀ (w : CommandLine.Surroundings) (r : CommandLine.CheckRequest) (config : Option String),
      w.settings config = .ok s → CommandLine.chooseLinter s r.profile = .ok l →
        r.container = some c → CommandLine.RunsIn w r config s l c :=
  ⟨s.replaced_setContainer l c, s.setContainer_setContainer l c,
    fun _ d h => Settings.setContainer_comm h c d,
    fun _ _ _ hs hlinter hcontainer => CommandLine.runsIn_of_choice hs hlinter hcontainer⟩

/-- A linter that is switched off in the settings, where another one is chosen, is run in the
container that is given. -/
theorem setContainer_overrides_switchedOff :
    ∃ p, (CommandLine.projectOnly CommandLine.chosenText).prepareCheck
        ⟨CommandLine.projectSettings, some "perl", some " box ", none, none, .text⟩ none =
          .ok (p, CommandLine.chosenText) ∧
      p.container = "box" ∧ p.command = ["perl", "-c"] ∧
      (CommandLine.chosenSettings.setContainer .perl " box ").profileSettings .perl =
        { ProfileSettings.unchanged with container := some " box " } := by
  obtain ⟨tree, htree, hdecode⟩ := CommandLine.parse_chosenText
  have hsettings : (CommandLine.projectOnly CommandLine.chosenText).settings none =
      .ok CommandLine.chosenSettings := by
    have hfile : (none <|> (CommandLine.projectOnly CommandLine.chosenText).settingsFiles.find?
        (CommandLine.projectOnly CommandLine.chosenText).isFile) =
          some CommandLine.projectSettings := by rfl
    rw [CommandLine.settings_of_tree hfile (CommandLine.readText_projectOnly _) htree, hdecode]
  have hsome : (ProfileSettings.unchanged.extractor .perl).toOption.isSome = true := by
    decide +kernel
  obtain ⟨e, he⟩ : ∃ e, ProfileSettings.unchanged.extractor .perl = .ok e := by
    cases hextractor : ProfileSettings.unchanged.extractor .perl with
    | error fault =>
        rw [hextractor] at hsome
        cases hsome
    | ok e => exact ⟨e, rfl⟩
  obtain ⟨hreplaced, -, -, hruns⟩ :=
    setContainer_overrides CommandLine.chosenSettings .perl " box "
  let r : CommandLine.CheckRequest :=
    ⟨CommandLine.projectSettings, some "perl", some " box ", none, none, .text⟩
  have hrun := hruns _ r none hsettings (by decide) rfl
  have htrimmed :
      "box".toList = (" box ".toList.dropWhile Text.isBlank).rdropWhile Text.isBlank := by decide
  refine ⟨⟨.perl, "box", ["perl", "-c"], e, true⟩, ?_, rfl, rfl, hreplaced.profileSettings⟩
  exact (hrun.prepared _ _).mpr ⟨⟨'b', by decide, by decide⟩, List.cons_ne_nil _ _,
    ⟨rfl, htrimmed, rfl, he, rfl⟩, CommandLine.readText_projectOnly _⟩

/-- A linter that is switched off comes between two that are configured, so that the settings
choose none any more. -/
example :
    let s : Settings :=
      { Settings.empty with
        perl := some (.enabled true)
        flake8 := some (.enabled false)
        php := some (.enabled true) }
    let t := s.setContainer .flake8 " box "
    t.configured = [.perl, .flake8, .php] ∧
      t.select = .error (.ambiguousProfiles [.perl, .flake8, .php]) := by
  decide

end ContainerLint
