import ContainerLint.Settings.Data

/-!
# Settings from an editor

An editor sends its settings as one piece of data. The linter's own are in one section of it,
which goes by two names; everything else is left alone.
-/

namespace ContainerLint.Settings

/-- The name of the section with the settings. -/
def sectionName : String := "dockerLinter"

/-- Another name of the section. -/
def otherSectionName : String := "docker-linter"

/-- Reads the section out of the members of an object, in order. `found` is the section, if a
member before held it; a second one is refused. -/
def sectionOf (found : Option Settings) : List (String × Value) → Decoded Settings
  | [] => .ok (found.getD empty)
  | (key, v) :: rest =>
    if key = sectionName ∨ key = otherSectionName then
      match found with
      | some _ => .error (.duplicateField sectionName)
      | none => do
        let s ← decode v
        sectionOf (some s) rest
    else sectionOf found rest

/-- Reads the settings that an editor sent. -/
def ofPayload : Value → Decoded Settings
  | .null => .ok empty
  | .obj members => sectionOf none members
  | .arr [] => .ok empty
  | .arr (v :: rest) => do
    let s ← decode v
    if rest.isEmpty then .ok s
    else .error (.invalidLength (rest.length + 1) "fewer elements in array")
  | v => Decode.wrongType v "struct SettingsPayload"

end ContainerLint.Settings
