import ContainerLint.Pattern.Match
import ContainerLint.Text.Blank

/-!
# Faults that the docker daemon reports

When docker itself fails it says so in a line of its output. `daemonError?` finds the first such
line.
-/

namespace ContainerLint

/-- The pattern of a line in which docker reports a fault of its own. -/
def daemonErrorSource : String :=
  "^((?:Error response from daemon: |Cannot connect to the Docker daemon).*)$"

/-- The pattern of such lines, ready for use. -/
def daemonErrorPattern : Except Pattern.Fault Pattern := Pattern.compile daemonErrorSource

/-- The first line in which docker reports a fault of its own, without blanks around it. -/
def daemonError? (output : String) : Option String :=
  match daemonErrorPattern with
  | .ok p => ((p.first? output).bind (·.text? 1)).map trimmed
  | .error _ => none

end ContainerLint
