import ContainerLint.Pattern.Match

/-!
# Variables of a docker machine

A docker machine is reached through variables that `docker-machine env` prints as shell commands,
one `export NAME="VALUE"` to a line.
-/

namespace ContainerLint

/-- The pattern of a line that sets a variable. -/
def exportSource : String := "^export (\\w+)=\"(.*)\"$"

/-- The pattern of such lines, ready for use. -/
def exportPattern : Except Pattern.Fault Pattern := Pattern.compile exportSource

/-- The variables that the printed text sets, in order. -/
def machineVariables (output : String) : List (String × String) :=
  match exportPattern with
  | .ok p => (p.all output).map fun m => ((m.text? 1).getD "", (m.text? 2).getD "")
  | .error _ => []

end ContainerLint
