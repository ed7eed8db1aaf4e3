import ContainerLint.Linter
import ContainerLint.Pattern.Error

/-!
# Faults of settings

What can keep a linter from being run with the given settings. All of it is found before the
linter is started.
-/

namespace ContainerLint

/-- The parts of a diagnostic that a group can hold. -/
inductive GroupField
  | line | column | severity | message | code
deriving DecidableEq, Repr

/-- The name of the setting for a group. -/
def GroupField.name : GroupField → String
  | .line => "lineGroup"
  | .column => "columnGroup"
  | .severity => "severityGroup"
  | .message => "messageGroup"
  | .code => "codeGroup"

/-- What is wrong with settings. -/
inductive ConfigFault
  | invalidPattern (pattern : String) (fault : Pattern.Fault)
  | groupOutOfRange (field : GroupField) (index : Nat) (available : Nat)
  | missingGroup (profile : Linter) (field : GroupField)
  | missingContainer (profile : Linter)
  | emptyCommand (profile : Linter)
  | unknownProfile (name : String)
  | profileNotConfigured (profile : Linter)
  | ambiguousProfiles (profiles : List Linter)
deriving DecidableEq, Repr

/-- What is said about a fault of settings. -/
def ConfigFault.message : ConfigFault → String
  | .invalidPattern pattern fault =>
    "invalid pattern '" ++ pattern ++ "': " ++ fault.message
  | .groupOutOfRange field index available =>
    field.name ++ " is " ++ toString index ++ " but the pattern only has " ++
      toString available ++ " capture group(s)"
  | .missingGroup profile field =>
    "profile '" ++ profile.name ++ "' overrides the pattern but does not set " ++ field.name
  | .missingContainer profile => "profile '" ++ profile.name ++ "' has no container configured"
  | .emptyCommand profile => "profile '" ++ profile.name ++ "' has an empty command"
  | .unknownProfile name =>
    "unknown linter profile '" ++ name ++ "' (expected one of: " ++ Linter.names ++ ")"
  | .profileNotConfigured profile =>
    "active profile '" ++ profile.name ++ "' is selected but not configured"
  | .ambiguousProfiles profiles =>
    "multiple linter profiles are configured (" ++
      String.intercalate ", " (profiles.map Linter.name) ++
      "); set activeProfile to choose one"

/-- The messages of a fault and of what caused it, the fault itself first. -/
def ConfigFault.chain (f : ConfigFault) : List String :=
  match f with
  | .invalidPattern _ cause => [f.message, cause.message]
  | f => [f.message]

end ContainerLint
