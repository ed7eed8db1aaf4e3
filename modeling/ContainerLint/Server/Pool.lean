/-!
# Pools of tasks

A `Pool` works off a list of items with a bounded number of tasks at a time. Each item is started
once, in order; when a task ends the next item can start. A task that crashes leaves its reason
behind and does not disturb the others.
-/

namespace ContainerLint

/-- A list of items that is being worked off. Each running task has a ticket, the number of tasks
that were started before it. -/
structure Pool (α : Type) where
  limit : Nat
  waiting : List α
  running : List (Nat × α)
  started : Nat
  crashes : List String
deriving Repr

namespace Pool

variable {α : Type}

/-- A pool that has started nothing. A limit of zero counts as one. -/
def ofItems (limit : Nat) (items : List α) : Pool α := ⟨max limit 1, items, [], 0, []⟩

/-- Starts the next item, if there is one and the limit allows it. -/
def start? (p : Pool α) : Option (Pool α × Nat × α) :=
  if p.running.length < p.limit then
    match p.waiting with
    | [] => none
    | a :: rest =>
      some ({ p with
        waiting := rest
        running := p.running ++ [(p.started, a)]
        started := p.started + 1 }, p.started, a)
  else none

/-- Ends the task with a ticket; a task that crashed leaves its reason. -/
def finish (p : Pool α) (ticket : Nat) (crash : Option String) : Pool α :=
  { p with
    running := p.running.filter fun t => t.1 ≠ ticket
    crashes := p.crashes ++ crash.toList }

/-- Whether all items are worked off. -/
def isDone (p : Pool α) : Bool := p.waiting.isEmpty && p.running.isEmpty

end Pool

end ContainerLint
