/-!
# Faults of running a linter

What can keep a linter from being run in its container once the settings are right.
-/

namespace ContainerLint

/-- What keeps a linter from running. -/
inductive RuntimeFault
  | dockerNotFound (program : String)
  | environment (reason : String)
  | spawn (program : String) (reason : String)
  | io (reason : String)
deriving DecidableEq, Repr

namespace RuntimeFault

/-- What is said about a fault of running a linter. -/
def message : RuntimeFault → String
  | .dockerNotFound program => "docker executable '" ++ program ++ "' was not found"
  | .environment reason => "failed to prepare the docker environment: " ++ reason
  | .spawn program reason => "failed to start '" ++ program ++ "': " ++ reason
  | .io reason => "I/O error while running the linter: " ++ reason

/-- Whether the same may work at another time, after docker was installed or started. -/
def isRetryable : RuntimeFault → Bool
  | .dockerNotFound _ => true
  | .environment _ => true
  | _ => false

/-- The messages of a fault and of what caused it, the fault itself first. -/
def chain (f : RuntimeFault) : List String :=
  match f with
  | .spawn _ reason => [f.message, reason]
  | .io reason => [f.message, reason]
  | f => [f.message]

end RuntimeFault

end ContainerLint
