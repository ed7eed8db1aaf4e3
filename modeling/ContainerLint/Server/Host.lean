import ContainerLint.Server.Session

/-!
# Hosts

A server needs somebody who prepares docker for it and who runs linters. A `Host` does both. The
server works under a host by taking one message after the other; after each message all runs that
can end are ended, the oldest first.
-/

namespace ContainerLint.Server

/-- What a server needs from outside, with a state of its own: docker is prepared, and a run ends
with a result as soon as it can. -/
structure Host (σ : Type) where
  prepare : σ → DockerOptions → σ × Except RuntimeFault Unit
  result? : σ → Run → Option RunResult

/-- The first run that can end now, with its result. -/
def State.ready? (s : State) (result? : Run → Option RunResult) : Option (Nat × RunResult) :=
  s.runs.findSome? fun r => (result? r).map fun result => (r.id, result)

/-- Ends at most a number of runs. -/
def State.settleWithin (result? : Run → Option RunResult) : Nat → State → Reaction
  | 0, s => (s, [])
  | fuel + 1, s =>
    match s.ready? result? with
    | none => (s, [])
    | some (run, result) =>
      let (s, done) := step s (.finished run result)
      let (s, more) := s.settleWithin result? fuel
      (s, done ++ more)

/-- The number of runs that can still end without a new message: those that were started, and
those that wait in a batch. -/
def State.outstanding (s : State) : Nat :=
  s.batches.foldl (fun n b => n + b.pool.waiting.length) s.runs.length

/-- Ends all runs that can end. -/
def State.settle (s : State) (result? : Run → Option RunResult) : Reaction :=
  s.settleWithin result? s.outstanding

/-- What came of a message: the answer, and what the server did. -/
structure Served where
  reply : Option Reply
  effects : List Effect

/-- What is sent to the editor: the answer first, then what the server has to tell. -/
def Served.sent (served : Served) : List Value :=
  (served.reply.map Reply.toValue).toList ++
    (served.effects.filterMap Notice.ofEffect?).map Notice.toValue

namespace Session

/-- Ends all runs that can end under a host. -/
def settle {σ : Type} (s : Session) (host : Host σ) (h : σ) : Session × List Effect :=
  let (state, done) := s.state.settle (host.result? h)
  ({ s with state }, done)

/-- Takes a message under a host, and ends all runs that can end after it. -/
def serve {σ : Type} (s : Session) (host : Host σ) (h : σ) (m : Message) :
    (Session × σ) × Served :=
  match s.receive m with
  | (s, .answered reply) => ((s, h), ⟨reply, []⟩)
  | (s, .greet) => ((s, h), ⟨none, [.logInfo greetingText]⟩)
  | (s, .prepare id options) =>
    let (h, outcome) := host.prepare h options
    let (s, reply) := s.prepared id outcome
    ((s, h), ⟨some reply, []⟩)
  | (s, .happens event) =>
    let (state, done) := step s.state event
    let (s, more) := ({ s with state } : Session).settle host h
    ((s, h), ⟨none, done ++ more⟩)

end Session

end ContainerLint.Server
