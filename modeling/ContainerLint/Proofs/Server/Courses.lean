import ContainerLint.Proofs.Server.Pools
import Mathlib.Data.List.Perm.Basic
import Mathlib.Data.List.Infix

/-!
# The course of a pool

A pool can start its next task whenever `Pool.start?` gives one, and any of its running tasks can
end at any time, well or by crashing: `Pool.Course` is what can happen, as a list of moves. What
is known of every course is kept by each move (`Pool.Course.accounts`); once no task can be
started, a pool without running tasks has worked off its items (`Pool.Accounts.done`). `Pool.Loop`
is the course of a pool that starts what it can at once and waits for the end of one task after
the other.
-/

namespace ContainerLint.Pool

variable {α : Type} {limit : Nat} {items : List α} {p next : Pool α} {ticket : Nat} {a : α}

/-- What can happen to a pool: its next task starts, or one of its tasks ends. -/
inductive Move (α : Type)
  | start (ticket : Nat) (a : α)
  | finish (ticket : Nat) (crash : Option String)
deriving DecidableEq, Repr

namespace Move

/-- The task that a move starts. -/
def started? : Move α → Option (Nat × α)
  | .start ticket a => some (ticket, a)
  | .finish _ _ => none

/-- The ticket of the task that ends in a move, with the reason of a crash. -/
def finished? : Move α → Option (Nat × Option String)
  | .start _ _ => none
  | .finish ticket crash => some (ticket, crash)

end Move

variable {moves more : List (Move α)}

/-- The tasks that are started, in order. -/
def starts (moves : List (Move α)) : List (Nat × α) := moves.filterMap Move.started?

/-- The tasks that end, in order. -/
def ends (moves : List (Move α)) : List (Nat × Option String) := moves.filterMap Move.finished?

/-- The tasks that were started and have not ended. -/
def inFlight (moves : List (Move α)) : List (Nat × α) :=
  (starts moves).filter fun t => t.1 ∉ (ends moves).map Prod.fst

@[simp] theorem starts_start (moves : List (Move α)) (ticket : Nat) (a : α) :
    starts (moves ++ [.start ticket a]) = starts moves ++ [(ticket, a)] := by
  simp [starts, Move.started?]

@[simp] theorem starts_finish (moves : List (Move α)) (ticket : Nat) (crash : Option String) :
    starts (moves ++ [.finish ticket crash]) = starts moves := by
  simp [starts, Move.started?]

@[simp] theorem ends_start (moves : List (Move α)) (ticket : Nat) (a : α) :
    ends (moves ++ [.start ticket a]) = ends moves := by
  simp [ends, Move.finished?]

@[simp] theorem ends_finish (moves : List (Move α)) (ticket : Nat) (crash : Option String) :
    ends (moves ++ [.finish ticket crash]) = ends moves ++ [(ticket, crash)] := by
  simp [ends, Move.finished?]

/-- The moves of a pool that works off some items, and what they come to. -/
inductive Course (limit : Nat) (items : List α) : List (Move α) → Pool α → Prop
  | begin : Course limit items [] (ofItems limit items)
  | start {moves : List (Move α)} {p next : Pool α} {ticket : Nat} {a : α}
      (h : Course limit items moves p) (hstart : p.start? = some (next, ticket, a)) :
      Course limit items (moves ++ [.start ticket a]) next
  | finish {moves : List (Move α)} {p : Pool α} {task : Nat × α} (h : Course limit items moves p)
      (htask : task ∈ p.running) (crash : Option String) :
      Course limit items (moves ++ [.finish task.1 crash]) (p.finish task.1 crash)

/-- A task that ends takes its ticket along, and no other. -/
theorem Ordered.tickets_finish (h : p.Ordered) {task : Nat × α} (htask : task ∈ p.running)
    (crash : Option String) :
    (p.running.map Prod.fst).Perm (task.1 :: (p.finish task.1 crash).running.map Prod.fst) := by
  have herase :=
    List.perm_cons_erase (List.mem_map_of_mem htask : task.1 ∈ p.running.map Prod.fst)
  rw [h.nodup.erase_eq_filter, List.filter_map] at herase
  have hsame : (p.finish task.1 crash).running =
      p.running.filter ((fun n => n != task.1) ∘ Prod.fst) :=
    List.filter_congr fun t _ => by simp [bne, beq_eq_decide]
  rw [hsame]
  exact herase

/-! ## What is known in every course -/

/-- What the moves of a pool say about it: the items are started in order, each with the next
ticket; what goes on is what was started and has not ended, and never more than the limit; each
task that was started goes on or has ended, once; and a crash is kept for each task that
crashed. -/
structure Accounts (limit : Nat) (items : List α) (moves : List (Move α))
    (p : Pool α) : Prop where
  limit_eq : p.limit = max limit 1
  order : (starts moves).map Prod.snd ++ p.waiting = items
  tickets : (starts moves).map Prod.fst = List.range p.started
  running : p.running = inFlight moves
  bounded : ∀ earlier, earlier <+: moves → (inFlight earlier).length ≤ max limit 1
  ended : ((ends moves).map Prod.fst ++ p.running.map Prod.fst).Perm (List.range p.started)
  crashes : p.crashes = (ends moves).filterMap Prod.snd

namespace Accounts

theorem begin (limit : Nat) (items : List α) : Accounts limit items [] (ofItems limit items) where
  limit_eq := rfl
  order := rfl
  tickets := rfl
  running := rfl
  bounded earlier h := by
    rw [List.prefix_nil.mp h]
    exact Nat.zero_le _
  ended := .refl _
  crashes := rfl

/-- A task that has ended was started. -/
theorem lt_of_ended (h : Accounts limit items moves p) {n : Nat}
    (hn : n ∈ (ends moves).map Prod.fst) : n < p.started :=
  List.mem_range.mp (h.ended.subset (List.mem_append_left _ hn))

/-- Another move after those in which the limit was kept. -/
theorem bounded_concat {move : Move α} (h : Accounts limit items moves p)
    (hlast : (inFlight (moves ++ [move])).length ≤ max limit 1) :
    ∀ earlier, earlier <+: moves ++ [move] → (inFlight earlier).length ≤ max limit 1 := by
  intro earlier hprefix
  rcases List.prefix_concat_iff.mp hprefix with rfl | hbefore
  · exact hlast
  · exact h.bounded earlier hbefore

theorem start (h : Accounts limit items moves p) (hstart : p.start? = some (next, ticket, a)) :
    Accounts limit items (moves ++ [.start ticket a]) next := by
  have hlt : p.running.length < p.limit := lt_limit_of_start hstart
  obtain ⟨hwaiting, rfl, hnext⟩ := start_eq_some hstart
  have hrunning : next.running = inFlight (moves ++ [.start p.started a]) := by
    have hnew : p.started ∉ (ends moves).map Prod.fst := fun hmem =>
      Nat.lt_irrefl _ (h.lt_of_ended hmem)
    rw [hnext, inFlight, starts_start, ends_start, List.filter_append, ← inFlight, ← h.running]
    simp [hnew]
  have hlength : next.running.length ≤ max limit 1 := by
    rw [hnext, ← h.limit_eq, List.length_append]
    exact hlt
  refine ⟨by rw [hnext]; exact h.limit_eq, ?_, ?_, hrunning,
    h.bounded_concat (hrunning ▸ hlength), ?_, ?_⟩
  · rw [starts_start, List.map_append, List.append_assoc]
    show _ ++ a :: next.waiting = items
    rw [← hwaiting]
    exact h.order
  · rw [starts_start, List.map_append, h.tickets, hnext]
    exact List.range_succ.symm
  · rw [ends_start, hnext, List.map_append, ← List.append_assoc, List.range_succ]
    exact h.ended.append_right _
  · rw [ends_start, hnext]
    exact h.crashes

theorem finish (h : Accounts limit items moves p) (hordered : p.Ordered) {task : Nat × α}
    (htask : task ∈ p.running) (crash : Option String) :
    Accounts limit items (moves ++ [.finish task.1 crash]) (p.finish task.1 crash) := by
  have hrunning : (p.finish task.1 crash).running =
      inFlight (moves ++ [.finish task.1 crash]) := by
    show p.running.filter (fun t => t.1 ≠ task.1) = _
    rw [h.running, inFlight, inFlight, starts_finish, ends_finish, List.filter_filter]
    refine List.filter_congr fun t _ => ?_
    rw [← Bool.decide_and, decide_eq_decide]
    simp only [List.map_append, List.mem_append, List.map_cons, List.map_nil, List.mem_singleton,
      not_or, and_comm]
  have hlength : (p.finish task.1 crash).running.length ≤ max limit 1 := by
    have hbefore := h.bounded moves (List.prefix_refl _)
    rw [← h.running] at hbefore
    exact (List.length_filter_le _ _).trans hbefore
  refine ⟨h.limit_eq, ?_, ?_, hrunning, h.bounded_concat (hrunning ▸ hlength), ?_, ?_⟩
  · rw [starts_finish]
    exact h.order
  · rw [starts_finish]
    exact h.tickets
  · rw [ends_finish, List.map_append, List.append_assoc]
    exact ((hordered.tickets_finish htask crash).symm.append_left _).trans h.ended
  · rw [ends_finish, List.filterMap_append, ← h.crashes]
    cases crash <;> rfl

end Accounts

theorem Course.ordered (h : Course limit items moves p) : p.Ordered := by
  induction h with
  | begin => exact ordered_ofItems limit items
  | start h hstart ih => exact (ih.start hstart).1
  | finish h htask crash ih => exact ih.finish _ crash

theorem Course.accounts (h : Course limit items moves p) : Accounts limit items moves p := by
  induction h with
  | begin => exact .begin limit items
  | start h hstart ih => exact ih.start hstart
  | finish h htask crash ih => exact ih.finish h.ordered htask crash

/-! ## Nothing is left out -/

/-- What is known of a pool when no task can be started: every item waits, or has a task that goes
on or has ended; as long as items wait, so many tasks go on as the limit allows; and without a
running task the items are worked off. Then each was started, in order, and each task has ended,
once; and if it is known of each task whether it crashes, the reasons that are kept are those of
the tasks that crash. -/
structure Worked (limit : Nat) (items : List α) (moves : List (Move α)) (p : Pool α) : Prop
    extends Accounts limit items moves p where
  length_eq : (ends moves).length + p.running.length + p.waiting.length = items.length
  full : p.waiting ≠ [] → p.running.length = max limit 1
  done : p.running = [] →
    (starts moves).map Prod.snd = items ∧
      ((ends moves).map Prod.fst).Perm (List.range items.length) ∧
      ∀ crash : Nat → Option String, (∀ e ∈ ends moves, e.2 = crash e.1) →
        p.crashes.Perm ((List.range items.length).filterMap crash)

namespace Accounts

/-- Each item waits, or has a task that goes on or has ended. -/
theorem length_eq (h : Accounts limit items moves p) :
    (ends moves).length + p.running.length + p.waiting.length = items.length := by
  have hended := h.ended.length_eq
  have hstarted := congrArg List.length h.tickets
  have hitems := congrArg List.length h.order
  simp only [List.length_append, List.length_map, List.length_range] at hended hstarted hitems
  omega

/-- As long as items wait that cannot be started, all tasks that the limit allows go on. -/
theorem full (h : Accounts limit items moves p) (hstuck : p.start? = none)
    (hwaiting : p.waiting ≠ []) : p.running.length = max limit 1 := by
  have hle := h.bounded moves (List.prefix_refl _)
  rw [← h.running] at hle
  rcases start_eq_none hstuck with hnil | hfull
  · exact absurd hnil hwaiting
  · exact Nat.le_antisymm hle (h.limit_eq ▸ hfull)

/-- Without running tasks nothing waits that cannot be started. -/
theorem waiting_eq_nil (h : Accounts limit items moves p) (hstuck : p.start? = none)
    (hrunning : p.running = []) : p.waiting = [] := by
  by_contra hwaiting
  have hfull := h.full hstuck hwaiting
  rw [hrunning, List.length_nil] at hfull
  exact absurd (Nat.le_max_right limit 1) (hfull ▸ Nat.not_succ_le_zero 0)

/-- Then all items are worked off. -/
theorem done (h : Accounts limit items moves p) (hstuck : p.start? = none)
    (hrunning : p.running = []) :
    (starts moves).map Prod.snd = items ∧
      ((ends moves).map Prod.fst).Perm (List.range items.length) ∧
      ∀ crash : Nat → Option String, (∀ e ∈ ends moves, e.2 = crash e.1) →
        p.crashes.Perm ((List.range items.length).filterMap crash) := by
  have hnil := h.waiting_eq_nil hstuck hrunning
  have horder := h.order
  rw [hnil, List.append_nil] at horder
  have hstarted : p.started = items.length := by
    rw [← List.length_range (n := p.started), ← h.tickets, List.length_map, ← horder,
      List.length_map]
  have hended := h.ended
  rw [hrunning, List.map_nil, List.append_nil, hstarted] at hended
  refine ⟨horder, hended, fun crash hcrash => ?_⟩
  have hcrashes : p.crashes = ((ends moves).map Prod.fst).filterMap crash := by
    rw [h.crashes, List.filterMap_map]
    exact List.filterMap_congr hcrash
  rw [hcrashes]
  exact hended.filterMap crash

end Accounts

theorem Course.worked (h : Course limit items moves p) (hstuck : p.start? = none) :
    Worked limit items moves p :=
  { h.accounts with
    length_eq := h.accounts.length_eq
    full := h.accounts.full hstuck
    done := h.accounts.done hstuck }

/-! ## Starting as soon as possible -/

/-- Starts so many tasks, or as many as can be started. -/
def startUpTo : Nat → Pool α → List (Move α) × Pool α
  | 0, p => ([], p)
  | n + 1, p =>
    match p.start? with
    | none => ([], p)
    | some (next, ticket, a) =>
      let (moves, last) := startUpTo n next
      (.start ticket a :: moves, last)

/-- The loop that works off items: it starts as many tasks as the limit allows, and then one more
whenever a task has ended. Which task ends next, and whether it crashes, is not up to the loop. It
returns when no task is running. -/
inductive Loop (limit : Nat) (items : List α) : List (Move α) → Pool α → Prop
  | begin :
      Loop limit items (startUpTo (max limit 1) (ofItems limit items)).1
        (startUpTo (max limit 1) (ofItems limit items)).2
  | join {moves : List (Move α)} {p : Pool α} {task : Nat × α} (h : Loop limit items moves p)
      (htask : task ∈ p.running) (crash : Option String) :
      Loop limit items
        (moves ++ .finish task.1 crash :: (startUpTo 1 (p.finish task.1 crash)).1)
        (startUpTo 1 (p.finish task.1 crash)).2

theorem Course.startUpTo (h : Course limit items moves p) (n : Nat) :
    Course limit items (moves ++ (p.startUpTo n).1) (p.startUpTo n).2 := by
  induction n generalizing moves p with
  | zero => simpa [Pool.startUpTo] using h
  | succ n ih =>
      cases hstart : p.start? with
      | none => simpa [Pool.startUpTo, hstart] using h
      | some task =>
          obtain ⟨next, ticket, a⟩ := task
          simpa [Pool.startUpTo, hstart] using ih (h.start hstart)

/-- No more can be started if there was room for no more. -/
theorem start?_startUpTo {n : Nat} (h : p.waiting = [] ∨ p.limit ≤ p.running.length + n) :
    (p.startUpTo n).2.start? = none := by
  induction n generalizing p with
  | zero =>
      rw [Pool.startUpTo, start?]
      rcases h with hwaiting | hfull
      · simp [hwaiting]
      · exact if_neg (Nat.not_lt_of_le hfull)
  | succ n ih =>
      cases hstart : p.start? with
      | none => simp [Pool.startUpTo, hstart]
      | some task =>
          obtain ⟨next, ticket, a⟩ := task
          obtain ⟨hwaiting, -, hnext⟩ := start_eq_some hstart
          have hroom : next.limit ≤ next.running.length + n := by
            rcases h with hnil | hfull
            · rw [hwaiting] at hnil
              cases hnil
            · rw [hnext]
              show p.limit ≤ (p.running ++ [(ticket, a)]).length + n
              rw [List.length_append, List.length_singleton]
              omega
          simpa [Pool.startUpTo, hstart] using ih (.inr hroom)

/-- The loop takes a course of the pool, and waits for an end only if it can start nothing. -/
theorem Loop.course (h : Loop limit items moves p) :
    Course limit items moves p ∧ p.start? = none := by
  induction h with
  | begin =>
      refine ⟨(Course.begin).startUpTo _, start?_startUpTo (.inr ?_)⟩
      show max limit 1 ≤ 0 + max limit 1
      omega
  | @join moves p task h htask crash ih =>
      obtain ⟨hcourse, hstuck⟩ := ih
      refine ⟨?_, start?_startUpTo ?_⟩
      · simpa using (hcourse.finish htask crash).startUpTo 1
      · rcases start_eq_none hstuck with hwaiting | hfull
        · exact .inl hwaiting
        · have hroom := (hcourse.ordered.tickets_finish htask crash).length_eq
          rw [List.length_map, List.length_cons, List.length_map] at hroom
          exact .inr (hroom ▸ hfull)

end ContainerLint.Pool
