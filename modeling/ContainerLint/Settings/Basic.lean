import ContainerLint.Profile

/-!
# Settings

All settings of the user: at most one entry for each linter, and the choice between them.
`Settings.select` chooses the profile to run: the one that is named, or else the only one that
is configured.
-/

namespace ContainerLint

/-- An entry of the settings: a profile as it is built in, switched on or off, or with changes. -/
inductive ProfileEntry
  | enabled (on : Bool)
  | custom (settings : ProfileSettings)
deriving DecidableEq, Repr

namespace ProfileEntry

/-- Whether the entry is not switched off. -/
def isConfigured : ProfileEntry → Bool
  | .enabled on => on
  | .custom _ => true

/-- The changes that the entry makes. -/
def settings : ProfileEntry → ProfileSettings
  | .enabled _ => .unchanged
  | .custom s => s

end ProfileEntry

/-- The settings of the user. -/
structure Settings where
  activeProfile : Option String
  perl : Option ProfileEntry
  perlcritic : Option ProfileEntry
  flake8 : Option ProfileEntry
  rubocop : Option ProfileEntry
  php : Option ProfileEntry
deriving DecidableEq, Repr

namespace Settings

/-- Settings without any entry. -/
def empty : Settings := ⟨none, none, none, none, none, none⟩

/-- The entry for a linter. -/
def entry (s : Settings) : Linter → Option ProfileEntry
  | .perl => s.perl
  | .perlcritic => s.perlcritic
  | .flake8 => s.flake8
  | .rubocop => s.rubocop
  | .php => s.php

/-- The settings with the entry for a linter replaced. -/
def setEntry (s : Settings) (linter : Linter) (e : ProfileEntry) : Settings :=
  match linter with
  | .perl => { s with perl := some e }
  | .perlcritic => { s with perlcritic := some e }
  | .flake8 => { s with flake8 := some e }
  | .rubocop => { s with rubocop := some e }
  | .php => { s with php := some e }

/-- The entry for a linter, unless it is absent or switched off. -/
def configuredEntry (s : Settings) (linter : Linter) : Option ProfileEntry :=
  (s.entry linter).filter ProfileEntry.isConfigured

/-- The linters with an entry that is not switched off, in the order of all linters. -/
def configured (s : Settings) : List Linter :=
  Linter.all.filter fun l => (s.configuredEntry l).isSome

/-- The changes to the profile of a linter; none if it is not configured. -/
def profileSettings (s : Settings) (linter : Linter) : ProfileSettings :=
  match s.configuredEntry linter with
  | some e => e.settings
  | none => .unchanged

/-- The settings with the container of a linter replaced. The linter is configured after that. -/
def setContainer (s : Settings) (linter : Linter) (container : String) : Settings :=
  s.setEntry linter (.custom { s.profileSettings linter with container := some container })

/-- The linter that a name stands for. -/
def linterNamed (name : String) : Except ConfigFault Linter :=
  match Linter.named? name with
  | some l => .ok l
  | none => .error (.unknownProfile name)

/-- The profile to run. A profile that is named must be configured; without a name the only
configured profile is taken, and several are refused. -/
def select (s : Settings) : Except ConfigFault (Option (Linter × ProfileSettings)) :=
  match s.activeProfile with
  | some name => do
    let l ← linterNamed name
    match s.configuredEntry l with
    | some e => .ok (some (l, e.settings))
    | none => .error (.profileNotConfigured l)
  | none =>
    match s.configured with
    | [] => .ok none
    | [l] => .ok (some (l, s.profileSettings l))
    | several => .error (.ambiguousProfiles several)

/-- The profile to run, checked. -/
def resolve (s : Settings) : Except ConfigFault (Option Profile) := do
  match ← s.select with
  | some (l, changes) => some <$> changes.resolve l
  | none => .ok none

end Settings

end ContainerLint
