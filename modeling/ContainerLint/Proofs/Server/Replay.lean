import ContainerLint.Proofs.Server.History

/-!
# Replaying events

A step is a function of the state and the event, so a history can be replayed from its events:
`History.eq_after` gives the state that it leads to and `History.sent_eq` all that was done. What
else is to be read off the steps on the way is collected in the same order by `State.collect`.
-/

namespace ContainerLint.Server

namespace State

/-- The state after some events. -/
def after (s : State) : List Event → State
  | [] => s
  | e :: rest => (step s e).1.after rest

/-- What a function of states and events yields in the course of some events. -/
def collect {α : Type} (f : State → Event → List α) (s : State) : List Event → List α
  | [] => []
  | e :: rest => f s e ++ (step s e).1.collect f rest

/-- All that is done in the course of some events. -/
def effects (s : State) (events : List Event) : List Effect :=
  s.collect (fun t e => (step t e).2) events

variable {α : Type} {f g : State → Event → List α}

@[simp] theorem after_nil (s : State) : s.after [] = s := rfl

@[simp] theorem after_cons (s : State) (e : Event) (rest : List Event) :
    s.after (e :: rest) = (step s e).1.after rest := rfl

@[simp] theorem collect_nil (s : State) : s.collect f [] = [] := rfl

@[simp] theorem collect_cons (s : State) (e : Event) (rest : List Event) :
    s.collect f (e :: rest) = f s e ++ (step s e).1.collect f rest := rfl

theorem after_append (s : State) (first second : List Event) :
    s.after (first ++ second) = (s.after first).after second := by
  induction first generalizing s with
  | nil => rfl
  | cons e rest ih => exact ih (step s e).1

theorem collect_append (s : State) (first second : List Event) :
    s.collect f (first ++ second) = s.collect f first ++ (s.after first).collect f second := by
  induction first generalizing s with
  | nil => rfl
  | cons e rest ih =>
      show f s e ++ (step s e).1.collect f (rest ++ second) = _
      rw [ih (step s e).1, ← List.append_assoc]
      rfl

@[simp] theorem effects_cons (s : State) (e : Event) (rest : List Event) :
    s.effects (e :: rest) = (step s e).2 ++ (step s e).1.effects rest := rfl

/-- What is known to hold in every state holds after any events. -/
theorem Sound.after {s : State} (h : s.Sound) (events : List Event) : (s.after events).Sound := by
  induction events generalizing s with
  | nil => exact h
  | cons e rest ih => exact ih (step_sound h e)

end State

variable {runtime : Runtime} {machine : Machine} {events : List Event} {s : State}
  {sent : List Effect}

/-- A history leads to the state after its events. -/
theorem History.eq_after (h : History runtime machine events s sent) :
    s = (State.initial machine).after events := by
  induction h with
  | start => rfl
  | step e h hadmits ih =>
      rw [State.after_append, ← ih]
      rfl

/-- What was done in a history is what is done in the course of its events. -/
theorem History.sent_eq (h : History runtime machine events s sent) :
    sent = (State.initial machine).effects events := by
  induction h with
  | start => rfl
  | step e h hadmits ih =>
      rw [State.effects, State.collect_append, ← h.eq_after]
      exact congrArg₂ _ ih (List.append_nil _).symm

/-- If runs may end in any way, a history can go on with any events. -/
theorem History.extend (h : History (fun _ _ _ => True) machine events s sent)
    (more : List Event) :
    History (fun _ _ _ => True) machine (events ++ more) (s.after more)
      (sent ++ s.effects more) := by
  induction more generalizing events s sent with
  | nil => simpa [State.effects] using h
  | cons e rest ih =>
      have hadmits : s.Admits (fun _ _ _ => True) e := by
        cases e with
        | finished => exact fun _ _ _ => trivial
        | opened | changed | saved | closed | configured => trivial
      simpa using ih (h.step e hadmits)

/-- What comes of a history after a part of it. -/
theorem History.since {before after : List Event} {t : State} {done : List Effect}
    (h : History runtime machine (before ++ after) s sent)
    (ht : History runtime machine before t done) :
    s = t.after after ∧ sent = done ++ t.effects after := by
  constructor
  · rw [h.eq_after, State.after_append, ← ht.eq_after]
  · rw [h.sent_eq, State.effects, State.collect_append, ← ht.eq_after]
    exact congrArg (· ++ _) ht.sent_eq.symm

/-- A history can be cut at any place. -/
theorem History.split {before after : List Event}
    (h : History runtime machine (before ++ after) s sent) :
    ∃ t done, History runtime machine before t done := by
  generalize hevents : before ++ after = events at h
  induction h generalizing after with
  | start =>
      obtain ⟨rfl, -⟩ := List.append_eq_nil_iff.mp hevents
      exact ⟨_, _, .start⟩
  | @step events s sent e h hadmits ih =>
      rcases List.eq_nil_or_concat after with rfl | ⟨rest, last, rfl⟩
      · rw [List.append_nil] at hevents
        exact hevents ▸ ⟨_, _, h.step e hadmits⟩
      · rw [List.concat_eq_append, ← List.append_assoc] at hevents
        exact ih (List.append_inj' hevents rfl).1

end ContainerLint.Server
