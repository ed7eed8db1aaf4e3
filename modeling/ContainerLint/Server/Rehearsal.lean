import ContainerLint.Server.Host

/-!
# Rehearsals

A rehearsal runs the server without docker. What each run of a linter prints and how it ends is
laid down beforehand by cues; a run can be held back until a gate is opened.
-/

namespace ContainerLint.Server

/-- How a run in a rehearsal ends: with an exit code, with a fault, or by crashing. -/
inductive Ending
  | exits (code : Option Int)
  | fails (fault : RuntimeFault)
  | crashes (reason : String)

/-- What is laid down for the runs on a text, or in a container, or for all: the gate that holds
them back, what they print, and how they end. -/
structure Cue where
  input : Option String
  container : Option String
  gate : Option String
  chunks : List Chunk
  ending : Ending

namespace Cue

/-- Whether a cue is meant for a run. -/
def fits (c : Cue) (run : Run) : Bool :=
  c.input.all (· = run.document.text) && c.container.all (· = run.profile.container)

/-- The result of a run under a cue. -/
def result (c : Cue) (run : Run) : RunResult :=
  match c.ending with
  | .exits code => .outcome (.ofChunks run.profile c.chunks code)
  | .fails fault => .failed fault
  | .crashes reason => .crashed reason

end Cue

/-- How far a rehearsal has come: the cues, the gates that are open, the faults that the next
tries to prepare docker will have, and the wishes of those that were made. -/
structure Rehearsal where
  cues : List Cue
  openGates : List String
  faults : List (Option RuntimeFault)
  prepared : List DockerOptions

namespace Rehearsal

/-- Opens a gate for good. -/
def openGate (r : Rehearsal) (gate : String) : Rehearsal :=
  { r with openGates := gate :: r.openGates }

/-- Whether a cue holds its runs back. -/
def holds (r : Rehearsal) (c : Cue) : Bool := c.gate.any fun gate => !r.openGates.contains gate

/-- The result of a run under the first cue that is meant for it, unless it is held back. A run
without a cue prints nothing. -/
def result? (r : Rehearsal) (run : Run) : Option RunResult :=
  match r.cues.find? fun c => c.fits run with
  | none => some (.outcome (.ofChunks run.profile [] none))
  | some c => if r.holds c then none else some (c.result run)

/-- Prepares docker, with the fault that comes next. -/
def prepare (r : Rehearsal) (options : DockerOptions) : Rehearsal × Except RuntimeFault Unit :=
  ({ r with faults := r.faults.drop 1, prepared := r.prepared ++ [options] },
    match r.faults with
    | some fault :: _ => .error fault
    | _ => .ok ())

/-- The host of a rehearsal. -/
def host : Host Rehearsal := ⟨prepare, result?⟩

end Rehearsal

end ContainerLint.Server
