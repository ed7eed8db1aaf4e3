import ContainerLint.Docker.Fault
import ContainerLint.Docker.MachineEnv
import ContainerLint.Docker.Program
import ContainerLint.Run.Collector

/-!
# Running linters with docker

A `DockerEnvironment` says which docker program is used and with which variables. `prepare` finds
a new one and makes sure that docker answers; it is only put in place when all of that went well.
`exec` runs a linter in its container. Both list the programs that they asked to start.
-/

namespace ContainerLint

/-- The wishes of the user about docker: the program to use, and the docker machine to talk to. -/
structure DockerOptions where
  dockerPath : Option String
  machine : Option String
deriving DecidableEq, Repr

namespace DockerOptions

/-- No wishes. -/
def none : DockerOptions := ⟨.none, .none⟩

/-- Reads the wishes of the user. -/
def decode : Value → Decoded DockerOptions :=
  Decode.record "EnvironmentOptions"
    [("dockerPath", Decode.check (Decode.option Decode.path)),
      ("machine", Decode.check (Decode.option Decode.text))]
    fun fields => do
      let dockerPath ← fields.optional 0 "dockerPath" Decode.path
      let machine ← fields.optional 1 "machine" Decode.text
      .ok ⟨dockerPath, machine⟩

/-- The wishes as data. -/
def toValue (o : DockerOptions) : Value :=
  let text : Option String → Value
    | some s => .str s
    | .none => .null
  .obj [("dockerPath", text o.dockerPath), ("machine", text o.machine)]

end DockerOptions

/-- The docker program and the variables that it is started with. -/
structure DockerEnvironment where
  program : String
  exports : List (String × String)
deriving DecidableEq, Repr

namespace DockerEnvironment

/-- The environment before any was prepared: plain `docker` without variables. -/
def initial : DockerEnvironment := ⟨"docker", []⟩

/-- The fault of a docker program that gave no answer. If the answer cannot be read this is told
like a program that cannot be started. -/
def spawnFault (program : String) : LaunchFault → RuntimeFault
  | .refused .notFound => .dockerNotFound program
  | fault => .spawn program fault.message

/-- The fault of a docker program that runs a linter. What the linter prints is read while it
runs, and a fault in reading it is told apart from a program that cannot be started. -/
def execFault (program : String) : LaunchFault → RuntimeFault
  | .refused fault => spawnFault program (.refused fault)
  | .unreadable reason => .io reason

/-- Why a program that failed did so: what it printed as its error, or else how it ended. -/
def failureReason (what : String) (ended : Ended) : String :=
  let printed := trimmed (LineBuffer.decoded ended.stderr)
  if printed.isEmpty then what ++ " failed (" ++ ended.status.message ++ ")" else printed

/-- The request for the variables of a docker machine. -/
def machineRequest (machine : String) : Invocation :=
  ⟨"docker-machine", ["env", "--shell", "bash", machine], [], none⟩

/-- The variables of a docker machine, out of the answer to the request for them. -/
def machineAnswer (machine : String) :
    Except LaunchFault Ended → Except RuntimeFault (List (String × String))
  | .error fault => .error (.environment ("could not run docker-machine: " ++ fault.message))
  | .ok ended =>
    if ended.status.isSuccess then
      match machineVariables (LineBuffer.decoded ended.stdout) with
      | [] => .error (.environment ("docker-machine env " ++ machine ++ " printed no variables"))
      | exports => .ok exports
    else .error (.environment (failureReason "docker-machine env" ended))

/-- The request by which docker shows that its daemon answers. -/
def probeRequest (e : DockerEnvironment) : Invocation :=
  ⟨e.program, ["version", "--format", "\x7b\x7b.Server.Version\x7d\x7d"], e.exports, none⟩

/-- Whether the daemon answered. -/
def probeAnswer (program : String) : Except LaunchFault Ended → Except RuntimeFault Unit
  | .error fault => .error (spawnFault program fault)
  | .ok ended =>
    if ended.status.isSuccess then .ok ()
    else .error (.environment (failureReason "docker version" ended))

/-- Finds the variables of the wanted docker machine, if one is wanted. -/
def findVariables (launch : Launcher) (machine : Option String) :
    Except RuntimeFault (List (String × String)) × List Invocation :=
  match machine with
  | none => (.ok [], [])
  | some name =>
    (machineAnswer name (launch.start (machineRequest name)), [machineRequest name])

/-- Makes the environment that the user wants and has docker show that it works. -/
def find (launch : Launcher) (options : DockerOptions) :
    Except RuntimeFault DockerEnvironment × List Invocation :=
  match findVariables launch options.machine with
  | (.error fault, asked) => (.error fault, asked)
  | (.ok exports, asked) =>
    let e : DockerEnvironment := ⟨options.dockerPath.getD "docker", exports⟩
    ((probeAnswer e.program (launch.start e.probeRequest)).map fun _ => e,
      asked ++ [e.probeRequest])

/-- Replaces the environment by the one that the user wants, if that one works. -/
def prepare (e : DockerEnvironment) (launch : Launcher) (options : DockerOptions) :
    (DockerEnvironment × Except RuntimeFault Unit) × List Invocation :=
  match find launch options with
  | (.ok found, asked) => ((found, .ok ()), asked)
  | (.error fault, asked) => ((e, .error fault), asked)

/-- The request to run a linter in its container on a text. -/
def execRequest (e : DockerEnvironment) (profile : Profile) (input : String) : Invocation :=
  ⟨e.program, ["exec", "-i", profile.container] ++ profile.command, e.exports, some input⟩

/-- The outcome of a run, out of the answer to the request for it. -/
def execAnswer (e : DockerEnvironment) (profile : Profile) :
    Except LaunchFault Ended → Except RuntimeFault Outcome
  | .error fault => .error (execFault e.program fault)
  | .ok ended => .ok (.ofChunks profile ended.chunks ended.status.code?)

/-- Runs a linter in its container on a text. -/
def exec (e : DockerEnvironment) (launch : Launcher) (profile : Profile) (input : String) :
    Except RuntimeFault Outcome × List Invocation :=
  let request := e.execRequest profile input
  (e.execAnswer profile (launch.start request), [request])

end DockerEnvironment

end ContainerLint
