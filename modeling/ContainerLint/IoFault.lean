/-!
# Refusals of the system

The ways in which the system refuses to read a file or to start a program, and what it says then.
-/

namespace ContainerLint

/-- Why the system refuses a file or a program. -/
inductive IoFault
  | notFound | permissionDenied | notDirectory | isDirectory | nulByte | invalidUtf8
deriving DecidableEq, Repr

/-- What the system says about a refusal. -/
def IoFault.message : IoFault → String
  | .notFound => "No such file or directory (os error 2)"
  | .permissionDenied => "Permission denied (os error 13)"
  | .notDirectory => "Not a directory (os error 20)"
  | .isDirectory => "Is a directory (os error 21)"
  | .nulByte => "nul byte found in provided data"
  | .invalidUtf8 => "stream did not contain valid UTF-8"

end ContainerLint
