import ContainerLint.Server.Payload
import ContainerLint.Server.State

/-!
# The steps of the language server

`step` takes the server from one wait for a linter run to the next. A document is validated when
it is opened, changed or saved, and all of them are when new settings are accepted. The
diagnostics of a run are published only if its document and the settings are those that it was
started with.
-/

namespace ContainerLint.Server

/-- A state with what was done on the way to it. -/
abbrev Reaction := State × List Effect

namespace State

/-- Inserts a document. -/
def insert (s : State) (uri text : String) : State :=
  { s with
    documents := s.documents.set uri ⟨s.insertions, text⟩
    insertions := s.insertions + 1 }

/-- Whether a result counts that was found under a version of the settings for a document: neither
has been replaced. -/
def counts (s : State) (uri : String) (version insertion : Nat) : Bool :=
  s.counter = version &&
    match s.documents.lookup uri with
    | some d => d.insertion = insertion
    | none => false

/-- Starts to validate a document. Under a batch nothing is done once its settings are replaced.
Without a profile, what an earlier profile published is cleared. Tells whether a run was
started. -/
def validate (s : State) (uri : String) (expected : Option Nat) (place : Option BatchPlace) :
    Reaction × Bool :=
  match s.documents.lookup uri with
  | none => ((s, []), false)
  | some d =>
    if expected.any (· ≠ s.config.version) then ((s, []), false)
    else
      match s.config.profile with
      | none =>
        if s.counts uri s.config.version d.insertion then ((s, [.publish uri []]), false)
        else ((s, []), false)
      | some p =>
        let run : Run := ⟨s.runsStarted, uri, d, s.config.version, p, place⟩
        (({ s with runs := s.runs ++ [run], runsStarted := s.runsStarted + 1 }, [.start run]),
          true)

/-- Validates one document. -/
def validateSingle (s : State) (uri : String) : Reaction := (s.validate uri none none).1

/-- Starts tasks of a batch as long as its pool allows it. A task that starts no run has ended at
once. -/
def fill : Nat → State → Batch → State × Batch × List Effect
  | 0, s, b => (s, b, [])
  | fuel + 1, s, b =>
    match b.pool.start? with
    | none => (s, b, [])
    | some (pool, ticket, uri) =>
      let ((s, done), inFlight) := s.validate uri (some b.version) (some ⟨b.id, ticket⟩)
      let pool := if inFlight then pool else pool.finish ticket none
      let (s, b, more) := fill fuel s { b with pool }
      (s, b, done ++ more)

/-- What is said about a task of a batch that crashed. -/
def crashText (reason : String) : String :=
  "Revalidation task failed after config change: " ++ reason

/-- The messages at the end of a batch: its crashes for the log, its failures for the user. -/
def closing (b : Batch) : List Effect :=
  b.pool.crashes.map (fun reason => .logError (crashText reason)) ++
    b.failures.messages.map .showError

/-- Puts a batch in its place among the batches. -/
def storeBatch (s : State) (b : Batch) : State :=
  { s with batches := s.batches.map fun c => if c.id = b.id then b else c }

/-- Drops a batch. -/
def dropBatch (s : State) (b : Batch) : State :=
  { s with batches := s.batches.filter fun c => c.id ≠ b.id }

/-- Goes on with a batch: starts what can be started, and ends the batch when nothing is left. -/
def proceed (s : State) (b : Batch) : Reaction :=
  let (s, b, done) := s.fill (b.pool.waiting.length + 1) b
  if b.pool.isDone then (s.dropBatch b, done ++ closing b) else (s.storeBatch b, done)

/-- The most runs that a batch of some documents keeps going at a time: what the machine can do,
but never more than four. -/
def batchLimit (parallelism documents : Nat) : Nat := min documents (max 1 (min parallelism 4))

/-- Validates all open documents after a change of settings. -/
def validateAll (s : State) (version : Nat) : Reaction :=
  if s.documents.isEmpty then (s, [])
  else
    let names := s.machine.arrange s.batchesStarted (s.documents.map Prod.fst)
    let b : Batch :=
      ⟨s.batchesStarted, version,
        .ofItems (batchLimit s.machine.parallelism names.length) names, .empty⟩
    { s with batches := s.batches ++ [b], batchesStarted := s.batchesStarted + 1 }.proceed b

/-- What is said about settings that cannot be read. -/
def unreadableText (m : Mismatch) : String :=
  "Failed to parse dockerLinter settings: " ++ m.message

/-- What is said about settings that cannot be used. -/
def unusableText (f : ConfigFault) : String := "Invalid dockerLinter settings: " ++ f.message

/-- What is said about the profile in force. -/
def profileText : Option Profile → String
  | some p => "Using " ++ p.linter.name ++ " in container " ++ p.container
  | none => "No linter profile configured"

/-- Puts new settings in force and validates all open documents. Settings that cannot be read or
used are reported and change nothing. -/
def configure (s : State) (payload : Value) : Reaction :=
  match Settings.ofPayload payload with
  | .error m => (s, [.showError (unreadableText m)])
  | .ok settings =>
    match settings.resolve with
    | .error f => (s, [.showError (unusableText f)])
    | .ok profile =>
      let version := s.counter + 1
      let (t, done) :=
        { s with counter := version, config := ⟨version, profile⟩ }.validateAll version
      (t, .logInfo (profileText profile) :: done)

/-- What comes of a run that has ended: diagnostics to publish, a failure to tell, a crash, or
nothing because the result does not count any more. -/
inductive Verdict
  | publish (diagnostics : List EditorDiagnostic)
  | failure (message : String)
  | crash (reason : String)
  | nothing

/-- What is said about a run that failed. -/
def failureText (p : Profile) (fault : RuntimeFault) : String :=
  p.linter.name ++ " failed to run: " ++ fault.message

/-- What comes of a run. -/
def verdict (s : State) (run : Run) : RunResult → Verdict
  | .crashed reason => .crash reason
  | .failed fault => .failure (failureText run.profile fault)
  | .outcome o =>
    if s.counts run.uri run.version run.document.insertion then
      match o.daemonError with
      | some message => .failure message
      | none => .publish (EditorDiagnostic.ofDiagnostics run.profile.linter.name o.diagnostics)
    else .nothing

/-- The effects of a run that was started for one document. A crash has none: it would end the
server, and here the server goes on, so that more can happen than does. -/
def singleEffects (uri : String) : Verdict → List Effect
  | .publish ds => [.publish uri ds]
  | .failure message => [.showError message]
  | .crash _ => []
  | .nothing => []

/-- Notes in a batch what came of one of its runs. -/
def record (b : Batch) (ticket : Nat) : Verdict → Batch
  | .failure message =>
    { b with failures := (b.failures.add message).1, pool := b.pool.finish ticket none }
  | .crash reason => { b with pool := b.pool.finish ticket (some reason) }
  | _ => { b with pool := b.pool.finish ticket none }

/-- The effects of a run that belongs to a batch, before the batch goes on. -/
def batchEffects (uri : String) : Verdict → List Effect
  | .publish ds => [.publish uri ds]
  | _ => []

/-- Takes the end of a run. -/
def finish (s : State) (id : Nat) (result : RunResult) : Reaction :=
  match s.runs.find? fun r => r.id = id with
  | none => (s, [])
  | some run =>
    let v := s.verdict run result
    let s := { s with runs := s.runs.filter fun r => r.id ≠ id }
    match run.place with
    | none => (s, singleEffects run.uri v)
    | some place =>
      match s.batches.find? fun b => b.id = place.batch with
      | none => (s, batchEffects run.uri v)
      | some b =>
        let (t, done) := s.proceed (record b place.ticket v)
        (t, batchEffects run.uri v ++ done)

end State

/-- What the server does when something happens. -/
def step (s : State) : Event → Reaction
  | .opened uri text => (s.insert uri text).validateSingle uri
  | .changed uri (some text) => (s.insert uri text).validateSingle uri
  | .changed _ none => (s, [])
  | .saved uri (some text) => (s.insert uri text).validateSingle uri
  | .saved uri none => s.validateSingle uri
  | .closed uri => ({ s with documents := s.documents.erase uri }, [.publish uri []])
  | .configured payload => s.configure payload
  | .finished run result => s.finish run result

end ContainerLint.Server
