import ContainerLint.Docker.Runtime

/-!
# Toolboxes

A `Toolbox` holds stand-ins for docker and docker-machine that print what was laid down for them.
With it all that depends on docker can be run without docker.
-/

namespace ContainerLint

/-- What a tool prints and how it ends, and whether it reads what it is given. -/
structure ToolScript where
  stdout : List UInt8
  stderr : List UInt8
  status : ExitStatus
  readsInput : Bool
deriving DecidableEq, Repr

/-- What a tool has printed and how it ended. The error output comes after the standard output,
and nothing comes of a stream that is empty. -/
def ToolScript.ended (t : ToolScript) : Ended :=
  ⟨[⟨.stdout, t.stdout⟩, ⟨.stderr, t.stderr⟩].filter fun chunk => !chunk.bytes.isEmpty, t.status⟩

/-- The stand-in for docker: what it does when it is asked to run something in a container, and
what it does otherwise. -/
structure DockerScript where
  exec : ToolScript
  version : ToolScript
deriving DecidableEq, Repr

/-- The tools that can be started, and the programs that the system refuses to start although
there is such a file. -/
structure Toolbox where
  docker : Option DockerScript
  machine : Option ToolScript
  refused : List (String × IoFault)
deriving DecidableEq, Repr

namespace Toolbox

/-- A toolbox without tools. -/
def empty : Toolbox := ⟨none, none, []⟩

/-- The tool that a request starts. -/
def script? (box : Toolbox) (i : Invocation) : Option ToolScript :=
  if i.program = "docker" then
    box.docker.map fun d => if i.arguments.head? = some "exec" then d.exec else d.version
  else if i.program = "docker-machine" then box.machine
  else none

/-- Starts the tools of the box and no other program. -/
def launcher (box : Toolbox) : Launcher := fun i =>
  match box.script? i with
  | some script => .ok script.ended
  | none => .error (.refused ((box.refused.lookup i.program).getD .notFound))

/-- Whether a request starts a tool. -/
def starts (box : Toolbox) (i : Invocation) : Bool := i.isPassable && (box.script? i).isSome

/-- The text that a started tool reads, if it reads any. -/
def inputRead (box : Toolbox) (i : Invocation) : Option String :=
  if (box.script? i).any ToolScript.readsInput then i.input else none

end Toolbox

end ContainerLint
