import ContainerLint.Proofs.Server.Tasks

/-!
# What a batch has noted

A batch notes which of its tasks crashed and which failures came up, and tells it when it ends.
Its notes change only when one of its own runs ends; what they are then is what `notesOf` makes of
the verdicts so far (`notes_record`).
-/

namespace ContainerLint.Server

/-- Whether an effect reports a failure to the editor. -/
def Effect.isReport : Effect → Bool
  | .showError _ => true
  | .logError _ => true
  | _ => false

/-- The failures that are reported by some effects. -/
def reports (sent : List Effect) : List Effect := sent.filter Effect.isReport

/-- The notes of a batch: the reasons of its crashes, and its failures without repetition. -/
structure Notes where
  crashes : List String
  failures : List String

/-- The notes that a batch has taken so far. -/
def Batch.notes (b : Batch) : Notes := ⟨b.pool.crashes, b.failures.messages⟩

/-- What is told at the end of a batch with these notes. -/
def Notes.told (n : Notes) : List Effect :=
  n.crashes.map (fun reason => .logError (State.crashText reason)) ++ n.failures.map .showError

namespace State

/-- The failure that a verdict tells. -/
def Verdict.failure? : Verdict → Option String
  | .failure message => some message
  | _ => none

/-- The crash that a verdict tells. -/
def Verdict.crash? : Verdict → Option String
  | .crash reason => some reason
  | _ => none

/-- The notes that are to be taken of some verdicts: every crash, and every failure when it comes
first. -/
def notesOf (verdicts : List Verdict) : Notes :=
  ⟨verdicts.filterMap Verdict.crash?, (verdicts.filterMap Verdict.failure?).eraseDups⟩

variable {s : State} {b c : Batch}

theorem reports_append (first second : List Effect) :
    reports (first ++ second) = reports first ++ reports second :=
  List.filter_append first second

theorem mem_reports_showError {sent : List Effect} {text : String} :
    .showError text ∈ reports sent ↔ .showError text ∈ sent := by
  simp [reports, Effect.isReport]

theorem reports_closing (b : Batch) : reports (closing b) = b.notes.told := by
  refine List.filter_eq_self.mpr fun e he => ?_
  rcases List.mem_append.mp he with he | he
  · obtain ⟨reason, -, rfl⟩ := List.mem_map.mp he
    rfl
  · obtain ⟨message, -, rfl⟩ := List.mem_map.mp he
    rfl

theorem showError_mem_told {n : Notes} {text : String} :
    Effect.showError text ∈ n.told ↔ text ∈ n.failures := by
  simp [Notes.told]

theorem showError_mem_singleEffects {uri text : String} {v : Verdict} :
    .showError text ∈ singleEffects uri v ↔ v.failure? = some text := by
  cases v <;> simp [singleEffects, Verdict.failure?, eq_comm]

theorem reports_batchEffects (uri : String) (v : Verdict) :
    reports (batchEffects uri v) = [] := by
  cases v <;> rfl

/-! ## Taking notes -/

/-- A message that comes again is left out. -/
theorem eraseDups_concat (messages : List String) (message : String) :
    (messages ++ [message]).eraseDups =
      if message ∈ messages then messages.eraseDups else messages.eraseDups ++ [message] := by
  rw [List.eraseDups_append]
  split <;> rename_i h <;> simp [List.removeAll, List.eraseDups_cons, h]

theorem messages_add (m : DistinctMessages) (message : String) :
    (m.add message).1.messages =
      if message ∈ m.messages then m.messages else m.messages ++ [message] := by
  unfold DistinctMessages.add
  simp only [List.contains_iff_mem]
  split <;> rfl

/-- The notes on a run that has ended are those on its verdict. -/
theorem notes_record {verdicts : List Verdict} (h : b.notes = notesOf verdicts) (ticket : Nat)
    (v : Verdict) : (record b ticket v).notes = notesOf (verdicts ++ [v]) := by
  obtain ⟨hcrashes, hfailures⟩ := Notes.mk.inj h
  unfold Batch.notes notesOf
  rw [List.filterMap_append, List.filterMap_append]
  cases v with
  | publish | nothing =>
      simp [List.filterMap_cons, Verdict.crash?, Verdict.failure?, record, Pool.finish, hcrashes,
        hfailures]
  | crash reason =>
      simp [List.filterMap_cons, Verdict.crash?, Verdict.failure?, record, Pool.finish, hcrashes,
        hfailures]
  | failure message =>
      simp [List.filterMap_cons, Verdict.crash?, Verdict.failure?, record, Pool.finish, hcrashes,
        messages_add, hfailures, eraseDups_concat, List.mem_eraseDups]

/-- A batch has noted the failures that it had noted before and the one it was told of. -/
theorem mem_failures_record (b : Batch) (ticket : Nat) {v : Verdict} {text : String} :
    text ∈ (record b ticket v).failures.messages ↔
      text ∈ b.failures.messages ∨ v.failure? = some text := by
  cases v with
  | failure message =>
      simp only [record, messages_add, Verdict.failure?, Option.some.injEq]
      split
      · rename_i hmem
        exact ⟨.inl, fun h => h.elim id (fun heq => heq ▸ hmem)⟩
      · simp [eq_comm]
  | publish | crash | nothing => simp [record, Verdict.failure?]

/-- A failure that a batch has noted before changes nothing. -/
theorem failures_record_of_noted (ticket : Nat) {v : Verdict}
    (h : ∀ text, v.failure? = some text → text ∈ b.failures.messages) :
    (record b ticket v).failures.messages = b.failures.messages := by
  cases v with
  | failure message =>
      show (b.failures.add message).1.messages = _
      rw [messages_add, if_pos (h message rfl)]
  | publish | crash | nothing => rfl

/-! ## Batches that go on -/

/-- Notes are not changed when tasks are started. -/
theorem Filled.notes_eq {taken : List String} {new : List Run} {sent : List Effect}
    (h : s.Filled b taken new c sent) : c.notes = b.notes := by
  have hfailures : c.failures = b.failures := by rw [h.same]
  simp only [Batch.notes, h.crashes, hfailures]

/-- When tasks are started nothing is reported. -/
theorem Filled.reports_eq {taken : List String} {new : List Run} {sent : List Effect}
    (h : s.Filled b taken new c sent) : reports sent = [] := by
  refine List.filter_eq_nil_iff.mpr fun e he => ?_
  rcases h.sent_cases e he with ⟨r, -, rfl⟩ | ⟨-, -, uri, d, -, rfl⟩ <;> simp [Effect.isReport]

/-- Once a batch has gone on, its place is empty or has the same notes, and the other batches are
as before. -/
theorem mem_batches_proceed (hversion : s.config.version = s.counter)
    (h : c ∈ (s.proceed b).1.batches) :
    (c.id = b.id ∧ c.notes = b.notes) ∨ (c.id ≠ b.id ∧ c ∈ s.batches) := by
  obtain ⟨taken, new, last, sent, hfilled, -, hproceed⟩ := s.proceed_filled b hversion
  have hid := hfilled.id_eq
  rw [hproceed] at h
  split at h
  · obtain ⟨hc, hne⟩ := List.mem_filter.mp h
    exact .inr ⟨by simpa [hid] using hne, hc⟩
  · obtain ⟨a, ha, rfl⟩ := List.mem_map.mp h
    split
    · exact .inl ⟨hid, hfilled.notes_eq⟩
    · rename_i hne
      exact .inr ⟨hid ▸ hne, ha⟩

/-- The other batches stay. -/
theorem mem_batches_proceed_of_ne (hversion : s.config.version = s.counter) (hc : c ∈ s.batches)
    (hne : c.id ≠ b.id) : c ∈ (s.proceed b).1.batches := by
  obtain ⟨taken, new, last, sent, hfilled, -, hproceed⟩ := s.proceed_filled b hversion
  have hid : c.id ≠ last.id := hfilled.id_eq ▸ hne
  rw [hproceed]
  split
  · exact List.mem_filter.mpr ⟨hc, by simpa using hid⟩
  · exact List.mem_map.mpr ⟨c, hc, by simp [hid]⟩

/-- A batch that goes on reports nothing as long as it is there, and its notes when it ends. -/
theorem reports_proceed (hversion : s.config.version = s.counter)
    (hmem : ∃ a ∈ s.batches, a.id = b.id) :
    ((∃ a ∈ (s.proceed b).1.batches, a.id = b.id) ∧ reports (s.proceed b).2 = []) ∨
      ((∀ a ∈ (s.proceed b).1.batches, a.id ≠ b.id) ∧
        reports (s.proceed b).2 = b.notes.told) := by
  obtain ⟨taken, new, last, sent, hfilled, -, hproceed⟩ := s.proceed_filled b hversion
  obtain ⟨a, ha, haid⟩ := hmem
  have hid := hfilled.id_eq
  rw [hproceed]
  split
  · refine .inr ⟨fun c hc => ?_, ?_⟩
    · simpa [hid] using (List.mem_filter.mp hc).2
    · rw [reports_append, hfilled.reports_eq, List.nil_append, reports_closing, hfilled.notes_eq]
  · refine .inl ⟨⟨last, List.mem_map.mpr ⟨a, ha, ?_⟩, hid⟩, hfilled.reports_eq⟩
    rw [if_pos (haid.trans hid.symm)]

/-- What a batch that goes on tells, it had noted. -/
theorem noted_of_told (hversion : s.config.version = s.counter)
    (hmem : ∃ a ∈ s.batches, a.id = b.id) {text : String}
    (h : .showError text ∈ (s.proceed b).2) : text ∈ b.failures.messages := by
  rw [← mem_reports_showError] at h
  rcases reports_proceed hversion hmem with ⟨-, hnone⟩ | ⟨-, htold⟩
  · simp [hnone] at h
  · rw [htold] at h
    exact showError_mem_told.mp h

/-- What a batch that goes on has noted, it tells or keeps. -/
theorem told_or_noted (hversion : s.config.version = s.counter)
    (hmem : ∃ a ∈ s.batches, a.id = b.id) {text : String} (h : text ∈ b.failures.messages) :
    .showError text ∈ (s.proceed b).2 ∨
      ∃ c ∈ (s.proceed b).1.batches, c.id = b.id ∧ text ∈ c.failures.messages := by
  rcases reports_proceed hversion hmem with ⟨⟨c, hc, hcid⟩, -⟩ | ⟨-, htold⟩
  · refine .inr ⟨c, hc, hcid, ?_⟩
    rcases mem_batches_proceed hversion hc with ⟨-, hnotes⟩ | ⟨hne, -⟩
    · have hsame : c.failures.messages = b.failures.messages := congrArg Notes.failures hnotes
      rw [hsame]
      exact h
    · exact absurd hcid hne
  · rw [← mem_reports_showError, htold]
    exact .inl (showError_mem_told.mpr h)

end State

end ContainerLint.Server
