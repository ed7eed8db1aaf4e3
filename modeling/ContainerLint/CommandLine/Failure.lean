import ContainerLint.ConfigFault
import ContainerLint.Docker.Fault
import ContainerLint.IoFault

/-!
# Failures of commands

Why a command could not do what it was asked to. A failure is told with what caused it.
-/

namespace ContainerLint.CommandLine

/-- Why a command failed. -/
inductive Failure
  | unreadableSettings (path : String) (fault : IoFault)
  | malformedSettings (path : String)
  | noProfile
  | badSettings (fault : ConfigFault)
  | unreadableFile (path : String) (fault : IoFault)
  | unreadableInput (fault : IoFault)
  | dockerUnavailable (fault : RuntimeFault)
  | runFailed (fault : RuntimeFault)
deriving DecidableEq, Repr

namespace Failure

/-- The messages of a failure and of its causes, the failure itself first. What is wrong in the
text of settings is not told in detail. -/
def chain : Failure → List String
  | .unreadableSettings path fault => ["failed to read settings file " ++ path, fault.message]
  | .malformedSettings path => ["failed to parse settings file " ++ path, "TOML parse error"]
  | .noProfile =>
    ["no linter profile configured; pass --profile or add one to .dockerlint.toml"]
  | .badSettings fault => fault.chain
  | .unreadableFile path fault => ["failed to read " ++ path, fault.message]
  | .unreadableInput fault => ["failed to read stdin", fault.message]
  | .dockerUnavailable fault => "docker is not available" :: fault.chain
  | .runFailed fault => fault.chain

/-- What is said about a failure. -/
def message (f : Failure) : String := String.intercalate ": " f.chain

end Failure

end ContainerLint.CommandLine
