import ContainerLint.Docker.Fault
import ContainerLint.Run.Collector
import ContainerLint.Server.DistinctMessages
import ContainerLint.Server.EditorDiagnostic
import ContainerLint.Server.Pool

/-!
# The state of the language server

The server holds the open documents, the settings in force, and the linter runs that have not
ended yet. A document that is inserted anew gets a new insertion number, even with the same text;
settings that are accepted get a new version. A run remembers both from when it was started, and
its result counts only if they are still the same.
-/

namespace ContainerLint.Server

/-- An open document: when it was inserted, and its text. -/
structure Document where
  insertion : Nat
  text : String
deriving DecidableEq, Repr

/-- Open documents by name, the oldest first. -/
abbrev Documents := List (String × Document)

namespace Documents

/-- Puts a document in the place of the one with its name, or at the end. -/
def set (uri : String) (d : Document) : Documents → Documents
  | [] => [(uri, d)]
  | (name, old) :: rest => if name = uri then (name, d) :: rest else (name, old) :: set uri d rest

/-- Drops the document of a name. -/
def erase (uri : String) (docs : Documents) : Documents := docs.filter fun d => d.1 ≠ uri

end Documents

/-- The settings in force: their version, and the profile that they choose. The version stands for
a word of 64 bits: fewer than 2^64 settings are accepted while the server runs. -/
structure ActiveConfig where
  version : Nat
  profile : Option Profile

/-- The place of a run in a batch: the batch and its ticket in the batch's pool. -/
structure BatchPlace where
  batch : Nat
  ticket : Nat
deriving DecidableEq, Repr

/-- A run of a linter that has not ended: the document and the settings that it was started with,
and its place in a batch if it belongs to one. -/
structure Run where
  id : Nat
  uri : String
  document : Document
  version : Nat
  profile : Profile
  place : Option BatchPlace

/-- The validation of all open documents after a change of settings. -/
structure Batch where
  id : Nat
  version : Nat
  pool : Pool String
  failures : DistinctMessages

/-- What differs from machine to machine: how many tasks can go on at a time, and in which order
each batch gets the names of the open documents. -/
structure Machine where
  parallelism : Nat
  arrange : Nat → List String → List String
  arrange_perm : ∀ batch names, (arrange batch names).Perm names

/-- A machine for four tasks, on which documents keep their order. -/
def Machine.plain : Machine := ⟨4, fun _ names => names, fun _ names => .refl names⟩

/-- The state of the server. `counter` counts the accepted changes of settings; there are fewer
than 2^64 of them, so it stands for a word of 64 bits. -/
structure State where
  machine : Machine
  documents : Documents
  insertions : Nat
  config : ActiveConfig
  counter : Nat
  runs : List Run
  runsStarted : Nat
  batches : List Batch
  batchesStarted : Nat

/-- The state before anything happened. -/
def State.initial (machine : Machine := .plain) : State :=
  ⟨machine, [], 0, ⟨0, none⟩, 0, [], 0, [], 0⟩

/-- How a run ended: with an outcome, with a fault, or by crashing. -/
inductive RunResult
  | outcome (o : Outcome)
  | failed (fault : RuntimeFault)
  | crashed (reason : String)

/-- What happens to the server: a message of the editor about a document or about settings, or the
end of a run. A document changes to the text of the last change, if there is any change. -/
inductive Event
  | opened (uri : String) (text : String)
  | changed (uri : String) (text : Option String)
  | saved (uri : String) (text : Option String)
  | closed (uri : String)
  | configured (payload : Value)
  | finished (run : Nat) (result : RunResult)

/-- What the server does: it publishes the diagnostics of a document, shows an error, writes to
the log, or starts a run. -/
inductive Effect
  | publish (uri : String) (diagnostics : List EditorDiagnostic)
  | showError (text : String)
  | logInfo (text : String)
  | logError (text : String)
  | start (run : Run)

end ContainerLint.Server
