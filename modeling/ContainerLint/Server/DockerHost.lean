import ContainerLint.Server.Host

/-!
# Docker as a host

Runs the linters of a server with docker. Under this host every run ends before the next message
is taken.
-/

namespace ContainerLint.Server

/-- Docker as it was prepared, and the programs that were asked for so far. -/
structure DockerHost where
  environment : DockerEnvironment
  asked : List Invocation

namespace DockerHost

/-- Docker before it was prepared. -/
def initial : DockerHost := ⟨.initial, []⟩

/-- Prepares docker. -/
def prepare (launch : Launcher) (h : DockerHost) (options : DockerOptions) :
    DockerHost × Except RuntimeFault Unit :=
  let ((environment, outcome), asked) := h.environment.prepare launch options
  (⟨environment, h.asked ++ asked⟩, outcome)

/-- The result of a run. -/
def result (launch : Launcher) (h : DockerHost) (run : Run) : RunResult :=
  match (h.environment.exec launch run.profile run.document.text).1 with
  | .ok outcome => .outcome outcome
  | .error fault => .failed fault

/-- The host that runs linters with docker. -/
def host (launch : Launcher) : Host DockerHost :=
  ⟨prepare launch, fun h run => some (h.result launch run)⟩

/-- Docker after what a server did: the programs of the runs that it started were asked for. -/
def noting (h : DockerHost) (effects : List Effect) : DockerHost :=
  { h with
    asked := h.asked ++ effects.filterMap fun
      | .start run => some (h.environment.execRequest run.profile run.document.text)
      | _ => none }

end DockerHost

end ContainerLint.Server
