import ContainerLint.Settings.Basic

/-!
# Settings as data

`Settings.decode` reads settings out of data and `Settings.toValue` writes them. An entry is a
truth value or a record of changes; whatever else stands there is refused without saying which
part of it is wrong. Fields that are not set are left out when writing.
-/

namespace ContainerLint

namespace CommandSpec

/-- Reads a command. -/
def decode : Value → Decoded CommandSpec
  | .str s => .ok (.line s)
  | .arr items =>
    match items.mapM Decode.text with
    | .ok texts => .ok (.arguments texts)
    | .error _ => .error (.noVariant "CommandSpec")
  | _ => .error (.noVariant "CommandSpec")

/-- The command as data, in the form in which it was written. -/
def toValue : CommandSpec → Value
  | .line text => .str text
  | .arguments items => .arr (items.map .str)

end CommandSpec

namespace ProfileSettings

/-- The fields of a record of changes, in order. -/
def checks : List (String × (Value → Decoded Unit)) :=
  [("container", Decode.check (Decode.option Decode.text)),
    ("command", Decode.check (Decode.option CommandSpec.decode)),
    ("pattern", Decode.check (Decode.option Decode.text)),
    ("lineGroup", Decode.check (Decode.option Decode.index)),
    ("columnGroup", Decode.check (Decode.option Decode.index)),
    ("severityGroup", Decode.check (Decode.option Decode.index)),
    ("messageGroup", Decode.check (Decode.option Decode.index)),
    ("codeGroup", Decode.check (Decode.option Decode.index)),
    ("reportExitStatus", Decode.check (Decode.option Decode.bool))]

/-- Reads the changes to a profile. -/
def decode : Value → Decoded ProfileSettings :=
  Decode.record "ProfileSettings" checks fun fields => do
    let container ← fields.optional 0 "container" Decode.text
    let command ← fields.optional 1 "command" CommandSpec.decode
    let pattern ← fields.optional 2 "pattern" Decode.text
    let lineGroup ← fields.optional 3 "lineGroup" Decode.index
    let columnGroup ← fields.optional 4 "columnGroup" Decode.index
    let severityGroup ← fields.optional 5 "severityGroup" Decode.index
    let messageGroup ← fields.optional 6 "messageGroup" Decode.index
    let codeGroup ← fields.optional 7 "codeGroup" Decode.index
    let reportExitStatus ← fields.optional 8 "reportExitStatus" Decode.bool
    .ok ⟨container, command, pattern, lineGroup, columnGroup, severityGroup, messageGroup,
      codeGroup, reportExitStatus⟩

/-- A member for a field, left out when the field is not set. -/
def member {α : Type} (name : String) (write : α → Value) : Option α → List (String × Value)
  | some a => [(name, write a)]
  | none => []

/-- The changes to a profile as data. -/
def toValue (s : ProfileSettings) : Value :=
  let index (n : UInt64) : Value := .int n.toNat
  .obj (member "container" .str s.container ++
    member "command" CommandSpec.toValue s.command ++
    member "pattern" .str s.pattern ++
    member "lineGroup" index s.lineGroup ++
    member "columnGroup" index s.columnGroup ++
    member "severityGroup" index s.severityGroup ++
    member "messageGroup" index s.messageGroup ++
    member "codeGroup" index s.codeGroup ++
    member "reportExitStatus" .bool s.reportExitStatus)

end ProfileSettings

namespace ProfileEntry

/-- Reads an entry of the settings. -/
def decode : Value → Decoded ProfileEntry
  | .bool on => .ok (.enabled on)
  | v =>
    match ProfileSettings.decode v with
    | .ok s => .ok (.custom s)
    | .error _ => .error (.noVariant "ProfileEntry")

/-- The entry as data. -/
def toValue : ProfileEntry → Value
  | .enabled on => .bool on
  | .custom s => s.toValue

end ProfileEntry

namespace Settings

/-- The fields of the settings, in order. -/
def checks : List (String × (Value → Decoded Unit)) :=
  [("activeProfile", Decode.check (Decode.option Decode.text)),
    ("perl", Decode.check (Decode.option ProfileEntry.decode)),
    ("perlcritic", Decode.check (Decode.option ProfileEntry.decode)),
    ("flake8", Decode.check (Decode.option ProfileEntry.decode)),
    ("rubocop", Decode.check (Decode.option ProfileEntry.decode)),
    ("php", Decode.check (Decode.option ProfileEntry.decode))]

/-- Reads settings. -/
def decode : Value → Decoded Settings :=
  Decode.record "Settings" checks fun fields => do
    let activeProfile ← fields.optional 0 "activeProfile" Decode.text
    let perl ← fields.optional 1 "perl" ProfileEntry.decode
    let perlcritic ← fields.optional 2 "perlcritic" ProfileEntry.decode
    let flake8 ← fields.optional 3 "flake8" ProfileEntry.decode
    let rubocop ← fields.optional 4 "rubocop" ProfileEntry.decode
    let php ← fields.optional 5 "php" ProfileEntry.decode
    .ok ⟨activeProfile, perl, perlcritic, flake8, rubocop, php⟩

/-- The settings as data. -/
def toValue (s : Settings) : Value :=
  let entry (l : Linter) : List (String × Value) :=
    ProfileSettings.member l.name ProfileEntry.toValue (s.entry l)
  .obj (ProfileSettings.member "activeProfile" .str s.activeProfile ++
    Linter.all.flatMap entry)

end Settings

end ContainerLint
