import ContainerLint.CommandLine.Run
import ContainerLint.Proofs.Pattern.Groups
import ContainerLint.Proofs.Text.Encoding
import ContainerLint.Server.Payload

/-!
# Settings on both surfaces

The command line reads settings from a file and looks up the linter that they choose anew; the
server reads them out of what an editor sent and takes the choice as it is. `surfaces_agree` says
that this comes to the same: the same settings are refused on both, and of settings that are taken
both make the same profile, or find the same fault.
-/

namespace ContainerLint

namespace Settings

variable {s : Settings} {linter : Linter} {changes : ProfileSettings}

/-! ## Looking up what was chosen -/

theorem profileSettings_of_configuredEntry {e : ProfileEntry}
    (h : s.configuredEntry linter = some e) : s.profileSettings linter = e.settings := by
  rw [profileSettings, h]

/-- A linter that is chosen by its name is configured, with the changes of its entry. -/
theorem profileSettings_of_select_named {name : String} (hname : s.activeProfile = some name)
    (h : s.select = .ok (some (linter, changes))) : s.profileSettings linter = changes := by
  simp only [select, hname] at h
  obtain ⟨named, -, h⟩ := bind_eq_ok.mp h
  cases hentry : s.configuredEntry named with
  | none =>
      rw [hentry] at h
      cases h
  | some e =>
      rw [hentry] at h
      cases h
      exact profileSettings_of_configuredEntry hentry

/-- What was chosen together with a linter is what is found when the linter is looked up. -/
theorem profileSettings_of_select (h : s.select = .ok (some (linter, changes))) :
    s.profileSettings linter = changes := by
  cases hactive : s.activeProfile with
  | some name => exact profileSettings_of_select_named hactive h
  | none =>
      simp only [select, hactive] at h
      split at h
      · cases h
      · cases h
        rfl
      · cases h

/-! ## The section of a payload -/

/-- The names under which a payload can hold the section. -/
def isSectionName (name : String) : Bool := name = sectionName || name = otherSectionName

/-- Members with other names do not matter. -/
theorem sectionOf_filter (found : Option Settings) (members : List (String × Value)) :
    sectionOf found (members.filter fun m => isSectionName m.1) = sectionOf found members := by
  induction members generalizing found with
  | nil => rfl
  | cons m members ih =>
      obtain ⟨name, v⟩ := m
      by_cases hname : name = sectionName ∨ name = otherSectionName
      · have hsection : isSectionName name = true := by simpa [isSectionName] using hname
        simp only [List.filter_cons, hsection, if_true, sectionOf, hname]
        cases found with
        | some s => rfl
        | none => exact bind_congr fun s => ih (some s)
      · have hsection : isSectionName name = false := by simpa [isSectionName] using hname
        simp only [List.filter_cons, hsection, Bool.false_eq_true, if_false, sectionOf, hname]
        exact ih found

/-- With one section in it, a payload means what is in the section. -/
theorem ofPayload_section {members : List (String × Value)} {name : String} {tree : Value}
    (h : (members.filter fun m => isSectionName m.1) = [(name, tree)]) :
    ofPayload (.obj members) = decode tree := by
  have hmem : (name, tree) ∈ members.filter fun m => isSectionName m.1 := by
    rw [h]
    exact List.mem_singleton_self _
  have hname : name = sectionName ∨ name = otherSectionName := by
    simpa [isSectionName] using (List.mem_filter.mp hmem).2
  rw [ofPayload, ← sectionOf_filter, h, sectionOf, if_pos hname]
  cases decode tree <;> rfl

end Settings

namespace CommandLine

open Surroundings

/-! ## The profile that the command line runs -/

/-- The profile of the linter that settings choose, the linter being looked up in them anew. -/
def chosenProfile (s : Settings) : Except Failure Profile := do
  let linter ← chooseLinter s none
  orBadSettings ((s.profileSettings linter).resolve linter)

/-- The same as the profile that settings choose, if they choose one. -/
theorem chosenProfile_eq (s : Settings) :
    chosenProfile s =
      match s.resolve with
      | .ok (some p) => .ok p
      | .ok none => .error .noProfile
      | .error f => .error (.badSettings f) := by
  rw [chosenProfile, chooseLinter, Settings.resolve]
  cases hselect : s.select with
  | error f => rfl
  | ok choice =>
      cases choice with
      | none => rfl
      | some chosen =>
          obtain ⟨linter, changes⟩ := chosen
          show orBadSettings ((s.profileSettings linter).resolve linter) =
            match some <$> changes.resolve linter with
            | .ok (some p) => .ok p
            | .ok none => .error .noProfile
            | .error f => .error (.badSettings f)
          rw [Settings.profileSettings_of_select hselect]
          cases changes.resolve linter <;> rfl

variable {w : Surroundings} {r : CheckRequest} {config : Option String} {path text : String}
  {tree : Value}

/-- The settings of a command, when the text of the settings file means a tree. -/
theorem settings_of_tree (hfile : (config <|> w.settingsFiles.find? w.isFile) = some path)
    (htext : w.readText path = .ok text) (htree : Toml.parse? text = some tree) :
    w.settings config =
      match Settings.decode tree with
      | .ok s => .ok s
      | .error _ => .error (.malformedSettings path) := by
  simp only [settings, hfile, settingsIn, htext, htree, Option.map_some]
  cases Settings.decode tree <;> rfl

/-- The text of a file that is checked with a profile. -/
def Surroundings.textToCheck (w : Surroundings) (file : String) (p : Profile) :
    Except Failure (Profile × String) :=
  match w.readText file with
  | .ok content => .ok (p, content)
  | .error fault => .error (.unreadableFile file fault)

theorem textToCheck_eq_ok {file content : String} {p q : Profile} :
    w.textToCheck file p = .ok (q, content) ↔ p = q ∧ w.readText file = .ok content := by
  rw [Surroundings.textToCheck]
  cases w.readText file <;> simp

/-- A file that cannot be read is no fault of the settings. -/
theorem textToCheck_ne_badSettings (w : Surroundings) (file : String) (p : Profile)
    (fault : ConfigFault) : w.textToCheck file p ≠ .error (.badSettings fault) := by
  rw [Surroundings.textToCheck]
  cases w.readText file <;> simp

/-- The settings with the container that is named on the command line, if one is. -/
def withContainer (s : Settings) (linter : Linter) : Option String → Settings
  | some container => s.setContainer linter container
  | none => s

/-- A file is checked with the profile of the linter that is named, or chosen. -/
theorem prepareCheck_eq (w : Surroundings) (r : CheckRequest) (config : Option String) :
    w.prepareCheck r config = w.settings config >>= fun s =>
      chooseLinter s r.profile >>= fun linter =>
        orBadSettings (((withContainer s linter r.container).profileSettings linter).resolve
          linter) >>= w.textToCheck r.file := by
  rw [prepareCheck]
  cases r.container <;> rfl

/-- Without a linter or a container on the command line, a file is checked with the profile that
the settings choose. -/
theorem prepareCheck_chosen (hprofile : r.profile = none) (hcontainer : r.container = none) :
    w.prepareCheck r config =
      w.settings config >>= fun s => chosenProfile s >>= w.textToCheck r.file := by
  rw [prepareCheck_eq, hprofile, hcontainer]
  refine bind_congr fun s => ?_
  rw [chosenProfile, bind_assoc]
  rfl

/-- A tree of settings, in a settings file and as the section of what an editor sent, is taken on
both surfaces as the same settings, or refused on both. Of any settings the command line makes a
profile exactly if the server does, and the same one; it says that there is no profile exactly if
the server has none; and otherwise both find the same fault. This profile, or this fault, is what
checking a file goes on with. -/
theorem surfaces_agree {members : List (String × Value)} {name : String}
    (hfile : (config <|> w.settingsFiles.find? w.isFile) = some path)
    (htext : w.readText path = .ok text) (htree : Toml.parse? text = some tree)
    (hsection : (members.filter fun m => Settings.isSectionName m.1) = [(name, tree)])
    (hprofile : r.profile = none) (hcontainer : r.container = none) :
    (∀ m, Settings.ofPayload (.obj members) = .error m →
      w.settings config = .error (.malformedSettings path) ∧
        w.prepareCheck r config = .error (.malformedSettings path)) ∧
    ∀ s, Settings.ofPayload (.obj members) = .ok s →
      w.settings config = .ok s ∧
      (∀ p, chosenProfile s = .ok p ↔ s.resolve = .ok (some p)) ∧
      (chosenProfile s = .error .noProfile ↔ s.resolve = .ok none) ∧
      (∀ f, chosenProfile s = .error (.badSettings f) ↔ s.resolve = .error f) ∧
      w.prepareCheck r config = chosenProfile s >>= w.textToCheck r.file := by
  have hsettings := settings_of_tree hfile htext htree
  rw [Settings.ofPayload_section hsection, prepareCheck_chosen hprofile hcontainer]
  constructor
  · intro m hm
    simp only [hm] at hsettings
    rw [hsettings]
    exact ⟨rfl, rfl⟩
  · intro s hs
    simp only [hs] at hsettings
    rw [hsettings]
    refine ⟨rfl, ?_, ?_, ?_, rfl⟩
    all_goals
      rw [chosenProfile_eq]
      rcases s.resolve with f | _ | p <;> simp

/-- Surroundings that hold a settings file for a project, and nothing else. -/
def projectOnly (text : String) : Surroundings :=
  { contents := fun path =>
      if path = projectSettings then .ok (Utf8.encode text.toList) else .error .notFound
    isFile := fun path => path = projectSettings
    environment := fun _ => none
    input := []
    onTerminal := false
    launch := fun _ => .error (.refused .notFound) }

theorem textOf_encode (text : String) : textOf (Utf8.encode text.toList) = .ok text := by
  rw [textOf, Utf8.decode?_encode]
  exact congrArg Except.ok String.ofList_toList

theorem readText_projectOnly (text : String) :
    (projectOnly text).readText projectSettings = .ok text := by
  simp only [readText, projectOnly, if_true]
  exact textOf_encode text

/-- A settings file in which one linter is switched off and another one is chosen. -/
def chosenText : String :=
  "activeProfile = \"flake8\"\nperl = false\n[flake8]\ncontainer = \" py \"\n" ++
    "pattern = \"(x)\"\nlineGroup = 1\nmessageGroup = 1\n"

/-- The settings that it holds. -/
def chosenSettings : Settings :=
  { Settings.empty with
    activeProfile := some "flake8"
    perl := some (.enabled false)
    flake8 := some (.custom { ProfileSettings.unchanged with
      container := some " py "
      pattern := some "(x)"
      lineGroup := some 1
      messageGroup := some 1 }) }

/-- The text of the settings file is read as these settings. -/
theorem parse_chosenText :
    ∃ tree, Toml.parse? chosenText = some tree ∧ Settings.decode tree = .ok chosenSettings := by
  have hany : (Toml.parse? chosenText).any
      (fun tree => Settings.decode tree = .ok chosenSettings) = true := by decide +kernel
  cases hparse : Toml.parse? chosenText with
  | none =>
      rw [hparse] at hany
      cases hany
  | some tree =>
      rw [hparse] at hany
      exact ⟨tree, rfl, of_decide_eq_true hany⟩

/-- The settings choose a profile, whose pattern finds nothing in the empty text. -/
theorem resolve_chosenSettings :
    ∃ p, chosenSettings.resolve = .ok (some p) ∧ p.container = "py" ∧
      p.command = Linter.flake8.command ∧ p.extractor.extract "" = [] := by
  have hany : (chosenSettings.resolve.toOption.bind id).any (fun p =>
      p.container = "py" ∧ p.command = Linter.flake8.command ∧ p.extractor.extract "" = []) =
        true := by decide +kernel
  rcases hresolve : chosenSettings.resolve with f | _ | p
  · rw [hresolve] at hany
    cases hany
  · rw [hresolve] at hany
    cases hany
  · rw [hresolve] at hany
    exact ⟨p, rfl, of_decide_eq_true hany⟩

/-- Both surfaces take these settings and make the same profile of them. -/
theorem surfaces_agree_chosen :
    ∃ tree, Toml.parse? chosenText = some tree ∧
      Settings.ofPayload (.obj [("editor", .str "vi"), ("dockerLinter", tree)]) =
        .ok chosenSettings ∧
      (projectOnly chosenText).settings none = .ok chosenSettings ∧
      ∃ p, chosenSettings.resolve = .ok (some p) ∧ chosenProfile chosenSettings = .ok p := by
  let r : CheckRequest := ⟨"a.py", none, none, none, none, .text⟩
  have hfile : (none <|> (projectOnly chosenText).settingsFiles.find?
      (projectOnly chosenText).isFile) = some projectSettings := by rfl
  have htext : (projectOnly chosenText).readText projectSettings = .ok chosenText :=
    readText_projectOnly chosenText
  obtain ⟨tree, htree, hdecode⟩ := parse_chosenText
  have hsection : ([("editor", .str "vi"), ("dockerLinter", tree)].filter
      fun m => Settings.isSectionName m.1) = [("dockerLinter", tree)] := by rfl
  have hpayload := (Settings.ofPayload_section hsection).trans hdecode
  obtain ⟨p, hresolve, -⟩ := resolve_chosenSettings
  have hagree := surfaces_agree (r := r) hfile htext htree hsection rfl rfl
  obtain ⟨hsettings, hprofile, -⟩ := hagree.2 chosenSettings hpayload
  exact ⟨tree, htree, hpayload, hsettings, p, hresolve, (hprofile p).mpr hresolve⟩

end CommandLine

end ContainerLint
