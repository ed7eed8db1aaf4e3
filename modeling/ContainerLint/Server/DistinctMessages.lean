/-!
# Distinct messages

Keeps the messages of a batch so that each is shown once, in the order in which they first came.
-/

namespace ContainerLint

/-- Messages without repetition, in the order in which they first came. -/
structure DistinctMessages where
  messages : List String
deriving DecidableEq, Repr

namespace DistinctMessages

/-- No messages. -/
def empty : DistinctMessages := ⟨[]⟩

/-- Whether there is no message. -/
def isEmpty (m : DistinctMessages) : Bool := m.messages.isEmpty

/-- The number of messages. -/
def size (m : DistinctMessages) : Nat := m.messages.length

/-- Adds a message, and tells whether it is new. -/
def add (m : DistinctMessages) (message : String) : DistinctMessages × Bool :=
  if m.messages.contains message then (m, false) else (⟨m.messages ++ [message]⟩, true)

end DistinctMessages

end ContainerLint
