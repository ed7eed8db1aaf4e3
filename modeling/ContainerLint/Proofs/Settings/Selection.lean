import Mathlib.Data.List.Sort
import ContainerLint.CommandLine.Run
import ContainerLint.Proofs.Settings.Surfaces
import ContainerLint.Proofs.Text.Blanks

/-!
# What the choice of a profile depends on

`Configured` says which entries count and what each changes, and `Selects` what comes of settings,
one constructor for each way in which the choice can end. `selection_depends` says that the choice
is this one, that next to a name it depends on nothing but the entry that is named, and that an
entry that is switched off is as good as none wherever a profile is looked up.
-/

namespace ContainerLint

namespace Linter

/-- A name stands for a linter: without the blanks at its ends, and up to the case of its
letters. -/
def IsNamed (l : Linter) (name : String) : Prop :=
  (((name.toList.dropWhile Text.isBlank).rdropWhile Text.isBlank).map Char.toLower) =
    l.name.toList

instance (l : Linter) (name : String) : Decidable (l.IsNamed name) :=
  inferInstanceAs (Decidable (_ = _))

theorem name_injective : Function.Injective name := by
  intro l k h
  cases l <;> cases k <;> first | rfl | exact absurd h (by decide)

theorem mem_all (l : Linter) : l ∈ all := by
  cases l <;> decide

theorem named?_eq_some_iff {l : Linter} {name : String} :
    named? name = some l ↔ l.IsNamed name := by
  have hfound : ∀ k, named? name = some k → k.IsNamed name := by
    intro k hk
    have hname := of_decide_eq_true (List.find?_eq_some_iff_append.mp hk).1
    rw [IsNamed, ← Text.trim_eq, hname]
  constructor
  · exact hfound l
  · intro h
    have hsome : (named? name).isSome := by
      refine List.find?_isSome.mpr ⟨l, l.mem_all, decide_eq_true ?_⟩
      rw [Text.trim_eq]
      exact h.symm
    obtain ⟨k, hk⟩ := Option.isSome_iff_exists.mp hsome
    have hname : k.name.toList = l.name.toList := (hfound k hk).symm.trans h
    rw [hk, name_injective (String.toList_injective hname)]

theorem named?_eq_none_iff {name : String} :
    named? name = none ↔ ∀ l : Linter, ¬ l.IsNamed name := by
  rw [Option.eq_none_iff_forall_ne_some]
  exact forall_congr' fun l => not_congr named?_eq_some_iff

/-- Lists of linters in the order in which these are listed are equal if they have the same
members. -/
theorem eq_of_sublist {ls ks : List Linter} (hls : ls.Sublist all) (hks : ks.Sublist all)
    (h : ∀ l, l ∈ ls ↔ l ∈ ks) : ls = ks := by
  have hall : all.Pairwise fun l k => all.idxOf l < all.idxOf k := by decide
  have hanti : Std.Antisymm fun l k : Linter => all.idxOf l < all.idxOf k :=
    ⟨fun _ _ hlt hgt => absurd hlt (Nat.lt_asymm hgt)⟩
  have hirrefl : Std.Irrefl fun l k : Linter => all.idxOf l < all.idxOf k :=
    ⟨fun _ => Nat.lt_irrefl _⟩
  exact (hall.sublist hls).eq_of_mem_iff (hall.sublist hks) h

end Linter

namespace Settings

variable {s t : Settings} {l k : Linter} {changes others : ProfileSettings}

/-- An entry that is there and not switched off, and the changes that it makes. -/
inductive Configured (s : Settings) (l : Linter) : ProfileSettings → Prop
  | switchedOn (h : s.entry l = some (.enabled true)) : Configured s l .unchanged
  | changed (changes : ProfileSettings) (h : s.entry l = some (.custom changes)) :
      Configured s l changes

/-- What comes of the choice of a profile. -/
inductive Selects (s : Settings) : Except ConfigFault (Option (Linter × ProfileSettings)) → Prop
  | unknown (name : String) (hactive : s.activeProfile = some name)
      (hname : ∀ l : Linter, ¬ l.IsNamed name) : Selects s (.error (.unknownProfile name))
  | notConfigured (name : String) (l : Linter) (hactive : s.activeProfile = some name)
      (hname : l.IsNamed name) (hnone : ∀ changes, ¬ s.Configured l changes) :
      Selects s (.error (.profileNotConfigured l))
  | named (name : String) (l : Linter) (changes : ProfileSettings)
      (hactive : s.activeProfile = some name) (hname : l.IsNamed name)
      (hconfigured : s.Configured l changes) : Selects s (.ok (some (l, changes)))
  | nothing (hactive : s.activeProfile = none) (hnone : ∀ l changes, ¬ s.Configured l changes) :
      Selects s (.ok none)
  | only (l : Linter) (changes : ProfileSettings) (hactive : s.activeProfile = none)
      (hconfigured : s.Configured l changes)
      (honly : ∀ k others, s.Configured k others → k = l) : Selects s (.ok (some (l, changes)))
  | several (ls : List Linter) (hactive : s.activeProfile = none) (horder : ls.Sublist Linter.all)
      (hmem : ∀ l, l ∈ ls ↔ ∃ changes, s.Configured l changes) (hlength : 1 < ls.length) :
      Selects s (.error (.ambiguousProfiles ls))

/-- Both settings name the same profile, and what they say about the linter of that name is the
same. They can differ in all other entries. -/
def AgreeOnActive (s t : Settings) : Prop :=
  ∃ name, s.activeProfile = some name ∧ t.activeProfile = some name ∧
    ∀ l : Linter, l.IsNamed name → s.entry l = t.entry l

/-- The entry for a linter is absent or switched off. -/
def Off (s : Settings) (l : Linter) : Prop := s.entry l = none ∨ s.entry l = some (.enabled false)

/-- Settings that differ in nothing but the way in which entries are off. -/
def AgreeUpToOff (s t : Settings) : Prop :=
  s.activeProfile = t.activeProfile ∧ ∀ l, s.entry l = t.entry l ∨ s.Off l ∧ t.Off l

/-! ## Entries that count -/

theorem configuredEntry_eq_none_iff : s.configuredEntry l = none ↔ s.Off l := by
  rw [configuredEntry, Off]
  rcases s.entry l with - | ⟨on | on⟩ | changes <;> simp [ProfileEntry.isConfigured]

theorem configured_iff :
    s.Configured l changes ↔ (s.configuredEntry l).map ProfileEntry.settings = some changes := by
  rw [configuredEntry]
  constructor
  · intro h
    cases h with
    | switchedOn h => rw [h]; rfl
    | changed changes h => rw [h]; rfl
  · intro h
    rcases hentry : s.entry l with - | ⟨on | on⟩ | given <;> rw [hentry] at h <;> cases h
    · exact .switchedOn hentry
    · exact .changed _ hentry

theorem configured_settings {e : ProfileEntry} (h : s.configuredEntry l = some e) :
    s.Configured l e.settings := by
  rw [configured_iff, h]
  rfl

theorem not_configured_iff :
    (∀ changes, ¬ s.Configured l changes) ↔ s.configuredEntry l = none := by
  simp only [configured_iff, ← Option.eq_none_iff_forall_ne_some, Option.map_eq_none_iff]

/-- The changes of an entry that counts are those that are looked up. -/
theorem Configured.profileSettings (h : s.Configured l changes) :
    s.profileSettings l = changes := by
  obtain ⟨e, he, rfl⟩ := Option.map_eq_some_iff.mp (configured_iff.mp h)
  exact profileSettings_of_configuredEntry he

theorem mem_configured : l ∈ s.configured ↔ ∃ changes, s.Configured l changes := by
  simp only [configured, List.mem_filter, l.mem_all, true_and, configured_iff,
    ← Option.isSome_iff_exists, Option.isSome_map]

/-! ## The choice -/

/-- With a name the entry decides that is named. -/
theorem select_of_isNamed {name : String} (hactive : s.activeProfile = some name)
    (hname : l.IsNamed name) :
    s.select =
      match s.configuredEntry l with
      | some e => .ok (some (l, e.settings))
      | none => .error (.profileNotConfigured l) := by
  simp only [select, hactive, linterNamed, Linter.named?_eq_some_iff.mpr hname]
  rfl

theorem select_of_unknown {name : String} (hactive : s.activeProfile = some name)
    (hname : ∀ l : Linter, ¬ l.IsNamed name) : s.select = .error (.unknownProfile name) := by
  simp only [select, hactive, linterNamed, Linter.named?_eq_none_iff.mpr hname]
  rfl

/-- The choice is one of the ways in which it can end. -/
theorem selects_select (s : Settings) : s.Selects s.select := by
  cases hactive : s.activeProfile with
  | some name =>
      by_cases hname : ∃ l : Linter, l.IsNamed name
      · obtain ⟨l, hl⟩ := hname
        rw [select_of_isNamed hactive hl]
        cases hentry : s.configuredEntry l with
        | none => exact .notConfigured name l hactive hl (not_configured_iff.mpr hentry)
        | some e => exact .named name l e.settings hactive hl (configured_settings hentry)
      · have hnone : ∀ l : Linter, ¬ l.IsNamed name := not_exists.mp hname
        rw [select_of_unknown hactive hnone]
        exact .unknown name hactive hnone
  | none =>
      simp only [select, hactive]
      split
      · rename_i hnil
        refine .nothing hactive fun l changes h => ?_
        have hmem : l ∈ s.configured := mem_configured.mpr ⟨changes, h⟩
        simp [hnil] at hmem
      · rename_i l hone
        obtain ⟨changes, hl⟩ := mem_configured.mp (show l ∈ s.configured by simp [hone])
        rw [hl.profileSettings]
        refine .only l changes hactive hl fun k others h => ?_
        have hmem : k ∈ s.configured := mem_configured.mpr ⟨others, h⟩
        simpa [hone] using hmem
      · rename_i hnil hone
        refine .several s.configured hactive List.filter_sublist (fun l => mem_configured) ?_
        rcases hls : s.configured with - | ⟨l, - | ⟨k, ls⟩⟩
        · exact absurd hls hnil
        · exact absurd hls (hone l)
        · simp

/-- The ways in which the choice can end exclude each other. -/
theorem Selects.eq_select {r : Except ConfigFault (Option (Linter × ProfileSettings))}
    (h : s.Selects r) : s.select = r := by
  cases h with
  | unknown name hactive hname => exact select_of_unknown hactive hname
  | notConfigured name l hactive hname hnone =>
      rw [select_of_isNamed hactive hname, not_configured_iff.mp hnone]
  | named name l changes hactive hname hconfigured =>
      obtain ⟨e, he, rfl⟩ := Option.map_eq_some_iff.mp (configured_iff.mp hconfigured)
      rw [select_of_isNamed hactive hname, he]
  | nothing hactive hnone =>
      have hnil : s.configured = [] := List.eq_nil_iff_forall_not_mem.mpr fun l hl =>
        (mem_configured.mp hl).elim (hnone l)
      simp only [select, hactive, hnil]
  | only l changes hactive hconfigured honly =>
      have hone : s.configured = [l] := by
        refine Linter.eq_of_sublist List.filter_sublist (List.singleton_sublist.mpr l.mem_all)
          fun k => ?_
        rw [List.mem_singleton, mem_configured]
        constructor
        · rintro ⟨others, hk⟩
          exact honly k others hk
        · rintro rfl
          exact ⟨changes, hconfigured⟩
      simp only [select, hactive, hone, hconfigured.profileSettings]
  | several ls hactive horder hmem hlength =>
      have hls : s.configured = ls :=
        Linter.eq_of_sublist List.filter_sublist horder fun l =>
          mem_configured.trans (hmem l).symm
      cases ls with
      | nil => simp at hlength
      | cons first ls =>
          cases ls with
          | nil => simp at hlength
          | cons second ls => simp only [select, hactive, hls]

/-! ## What does not matter -/

/-- What is resolved depends on what is chosen only. -/
theorem resolve_congr (h : s.select = t.select) : s.resolve = t.resolve := by
  rw [resolve, resolve, h]

theorem AgreeOnActive.select_eq (h : s.AgreeOnActive t) : s.select = t.select := by
  obtain ⟨name, hs, ht, hentry⟩ := h
  by_cases hname : ∃ l : Linter, l.IsNamed name
  · obtain ⟨l, hl⟩ := hname
    rw [select_of_isNamed hs hl, select_of_isNamed ht hl, configuredEntry, configuredEntry,
      hentry l hl]
  · rw [select_of_unknown hs (not_exists.mp hname), select_of_unknown ht (not_exists.mp hname)]

theorem AgreeUpToOff.configuredEntry_eq (h : s.AgreeUpToOff t) :
    s.configuredEntry = t.configuredEntry := by
  funext l
  rcases h.2 l with hentry | ⟨hs, ht⟩
  · rw [configuredEntry, configuredEntry, hentry]
  · rw [configuredEntry_eq_none_iff.mpr hs, configuredEntry_eq_none_iff.mpr ht]

theorem AgreeUpToOff.configured_eq (h : s.AgreeUpToOff t) : s.configured = t.configured := by
  rw [configured, configured, h.configuredEntry_eq]

theorem AgreeUpToOff.profileSettings_eq (h : s.AgreeUpToOff t) :
    s.profileSettings = t.profileSettings := by
  funext l
  rw [profileSettings, profileSettings, h.configuredEntry_eq]

theorem AgreeUpToOff.select_eq (h : s.AgreeUpToOff t) : s.select = t.select := by
  rw [select, select, h.1, h.configuredEntry_eq, h.configured_eq, h.profileSettings_eq]

end Settings

namespace CommandLine

/-- What the command line chooses without a name depends on what settings choose only. -/
theorem chooseLinter_congr {s t : Settings} (h : s.select = t.select)
    (requested : Option String) :
    chooseLinter s requested = chooseLinter t requested := by
  cases requested with
  | some name => rfl
  | none => rw [chooseLinter, chooseLinter, h]

end CommandLine

open Settings in
/-- The choice of a profile ends as `Selects` says. Next to a name it depends, as the profile that
is made of it does, on the entry that is named only; and an entry that is switched off is as good
as none for it, for the profile, for the changes that are looked up and for what the command line
chooses, with a name of its own or without. -/
theorem selection_depends (s : Settings) :
    (∀ r, s.select = r ↔ s.Selects r) ∧
    (∀ t, s.AgreeOnActive t → s.select = t.select ∧ s.resolve = t.resolve) ∧
    ∀ t, s.AgreeUpToOff t → s.configured = t.configured ∧ s.select = t.select ∧
      s.resolve = t.resolve ∧ (∀ l, s.profileSettings l = t.profileSettings l) ∧
      ∀ requested,
        CommandLine.chooseLinter s requested = CommandLine.chooseLinter t requested := by
  refine ⟨fun r => ⟨?_, Selects.eq_select⟩, fun t h => ?_, fun t h => ?_⟩
  · rintro rfl
    exact s.selects_select
  · exact ⟨h.select_eq, resolve_congr h.select_eq⟩
  · exact ⟨h.configured_eq, h.select_eq, resolve_congr h.select_eq,
      fun l => congrFun h.profileSettings_eq l, CommandLine.chooseLinter_congr h.select_eq⟩

/-- Two linters are switched on and one of them is named; then the other one is switched off. -/
theorem selection_depends_switchedOff :
    let s : Settings :=
      { Settings.empty with
        activeProfile := some " Flake8"
        perl := some (.enabled true)
        flake8 := some (.enabled true) }
    let t : Settings := { s with perl := some (.enabled false) }
    let u : Settings := { s with perl := none }
    s.AgreeOnActive t ∧ s.select = t.select ∧ s.select = .ok (some (.flake8, .unchanged)) ∧
      t.AgreeUpToOff u ∧ t.configured = u.configured ∧ u.configured = [.flake8] := by
  intro s t u
  have hst : s.AgreeOnActive t := by
    refine ⟨" Flake8", rfl, rfl, fun l hname => ?_⟩
    cases l with
    | perl => exact absurd hname (by decide)
    | perlcritic | flake8 | rubocop | php => rfl
  have htu : t.AgreeUpToOff u := by
    refine ⟨rfl, fun l => ?_⟩
    cases l with
    | perl => exact .inr ⟨.inr rfl, .inl rfl⟩
    | perlcritic | flake8 | rubocop | php => exact .inl rfl
  exact ⟨hst, ((selection_depends s).2.1 t hst).1, by decide, htu,
    ((selection_depends t).2.2 u htu).1, by decide⟩

end ContainerLint
