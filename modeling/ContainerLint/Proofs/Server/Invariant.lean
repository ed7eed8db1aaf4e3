import ContainerLint.Proofs.Server.Validation
import Mathlib.Data.List.Nodup

/-!
# What holds in every state of the server

`State.Sound` collects what numbers mean: an insertion number stands for one document, a version
for one profile, an identifier for one run or batch. Every step keeps it (`step_sound`). What is
used of it later is that a run counts exactly when it is fresh (`Sound.counts_iff_fresh`).
-/

namespace ContainerLint.Server

namespace State

/-- What insertion numbers, versions and identifiers of runs stand for. -/
structure RunsSound (s : State) : Prop where
  document_lt : ∀ uri d, s.documents.lookup uri = some d → d.insertion < s.insertions
  insertion_lt : ∀ r ∈ s.runs, r.document.insertion < s.insertions
  same_document : ∀ r ∈ s.runs, ∀ d, s.documents.lookup r.uri = some d →
    d.insertion = r.document.insertion → d = r.document
  version_le : ∀ r ∈ s.runs, r.version ≤ s.config.version
  same_profile : ∀ r ∈ s.runs, r.version = s.config.version → s.config.profile = some r.profile
  id_lt : ∀ r ∈ s.runs, r.id < s.runsStarted
  ids_nodup : (s.runs.map Run.id).Nodup

/-- What identifiers and versions of batches stand for. A batch under the settings in force has
runs to wait for, so there is a profile. -/
structure BatchesSound (s : State) : Prop where
  id_lt : ∀ b ∈ s.batches, b.id < s.batchesStarted
  ids_nodup : (s.batches.map Batch.id).Nodup
  version_le : ∀ b ∈ s.batches, b.version ≤ s.config.version
  profile : ∀ b ∈ s.batches, b.version = s.config.version → s.config.profile ≠ none

/-- What holds in every state. -/
structure Sound (s : State) : Prop where
  version : s.config.version = s.counter
  runs : s.RunsSound
  batches : s.BatchesSound

theorem sound_initial (machine : Machine) : (State.initial machine).Sound where
  version := rfl
  runs := ⟨by simp [initial], by simp [initial], by simp [initial], by simp [initial],
    by simp [initial], by simp [initial], by simp [initial]⟩
  batches := ⟨by simp [initial], by simp [initial], by simp [initial], by simp [initial]⟩

/-- Two runs with one identifier are one run. -/
theorem RunsSound.eq_of_id {s : State} (h : s.RunsSound) {r q : Run} (hr : r ∈ s.runs)
    (hq : q ∈ s.runs) (hid : r.id = q.id) : r = q :=
  List.inj_on_of_nodup_map h.ids_nodup hr hq hid

/-- Two batches with one identifier are one batch. -/
theorem BatchesSound.eq_of_id {s : State} (h : s.BatchesSound) {b c : Batch} (hb : b ∈ s.batches)
    (hc : c ∈ s.batches) (hid : b.id = c.id) : b = c :=
  List.inj_on_of_nodup_map h.ids_nodup hb hc hid

/-- The result of a run counts exactly when the run is fresh. -/
theorem Sound.counts_iff_fresh {s : State} (h : s.Sound) {r : Run} (hr : r ∈ s.runs) :
    s.counts r.uri r.version r.document.insertion = true ↔ s.Fresh r := by
  constructor
  · intro hcounts
    simp only [counts, Bool.and_eq_true, decide_eq_true_eq] at hcounts
    obtain ⟨hversion, hdocument⟩ := hcounts
    cases hopen : s.documents.lookup r.uri with
    | none => simp [hopen] at hdocument
    | some d =>
        -- Only numbers are compared, and they are enough: each stands for one thing.
        have hinsertion : d.insertion = r.document.insertion := by simpa [hopen] using hdocument
        have hd : d = r.document := h.runs.same_document r hr d hopen hinsertion
        have hcurrent : s.config.version = r.version := h.version.trans hversion
        have hprofile := h.runs.same_profile r hr hcurrent.symm
        refine ⟨by rw [hopen, hd], ?_⟩
        rw [← hcurrent, ← hprofile]
  · exact fun hfresh => hfresh.counts h.version

/-! ## Runs -/

/-- Fresh runs with the next identifiers may be started. -/
theorem RunsSound.begin {s : State} (h : s.RunsSound) {new : List Run}
    (hfresh : ∀ r ∈ new, s.Fresh r)
    (hids : new.map Run.id = List.range' s.runsStarted new.length) : (s.begin new).RunsSound where
  document_lt := h.document_lt
  insertion_lt r hr := by
    rcases List.mem_append.mp hr with hr | hr
    · exact h.insertion_lt r hr
    · exact h.document_lt r.uri r.document (hfresh r hr).document
  same_document r hr d hd hinsertion := by
    rcases List.mem_append.mp hr with hr | hr
    · exact h.same_document r hr d hd hinsertion
    · exact Option.some.inj (hd.symm.trans (hfresh r hr).document)
  version_le r hr := by
    rcases List.mem_append.mp hr with hr | hr
    · exact h.version_le r hr
    · exact Nat.le_of_eq (congrArg ActiveConfig.version (hfresh r hr).config).symm
  same_profile r hr hversion := by
    rcases List.mem_append.mp hr with hr | hr
    · exact h.same_profile r hr hversion
    · exact congrArg ActiveConfig.profile (hfresh r hr).config
  id_lt r hr := by
    rcases List.mem_append.mp hr with hr | hr
    · exact Nat.lt_add_right _ (h.id_lt r hr)
    · have hmem : r.id ∈ List.range' s.runsStarted new.length :=
        hids ▸ List.mem_map_of_mem hr
      exact (List.mem_range'_1.mp hmem).2
  ids_nodup := by
    simp only [State.begin, List.map_append, hids]
    refine List.nodup_append.mpr ⟨h.ids_nodup, List.nodup_range', ?_⟩
    intro id hid other hother
    obtain ⟨r, hr, rfl⟩ := List.mem_map.mp hid
    exact Nat.ne_of_lt (Nat.lt_of_lt_of_le (h.id_lt r hr) (List.mem_range'_1.mp hother).1)

/-- A run may leave. -/
theorem RunsSound.endRun {s : State} (h : s.RunsSound) (id : Nat) : (s.endRun id).RunsSound where
  document_lt := h.document_lt
  insertion_lt r hr := h.insertion_lt r (List.mem_of_mem_filter hr)
  same_document r hr := h.same_document r (List.mem_of_mem_filter hr)
  version_le r hr := h.version_le r (List.mem_of_mem_filter hr)
  same_profile r hr := h.same_profile r (List.mem_of_mem_filter hr)
  id_lt r hr := h.id_lt r (List.mem_of_mem_filter hr)
  ids_nodup := h.ids_nodup.sublist (List.filter_sublist.map Run.id)

/-- A document may be put in: its insertion number is new. -/
theorem RunsSound.insert {s : State} (h : s.RunsSound) (uri text : String) :
    (s.insert uri text).RunsSound where
  document_lt name d hd := by
    simp only [State.insert, Documents.lookup_set] at hd ⊢
    split at hd
    · cases hd
      exact Nat.lt_succ_self _
    · exact Nat.lt_succ_of_lt (h.document_lt name d hd)
  insertion_lt r hr := Nat.lt_succ_of_lt (h.insertion_lt r hr)
  same_document r hr d hd hinsertion := by
    simp only [State.insert, Documents.lookup_set] at hd
    split at hd
    · -- The number of the new document is greater than that of any run.
      cases hd
      exact absurd hinsertion (Nat.ne_of_gt (h.insertion_lt r hr))
    · exact h.same_document r hr d hd hinsertion
  version_le := h.version_le
  same_profile := h.same_profile
  id_lt := h.id_lt
  ids_nodup := h.ids_nodup

/-- A document may be dropped. -/
theorem RunsSound.erase {s : State} (h : s.RunsSound) (uri : String) :
    ({ s with documents := s.documents.erase uri } : State).RunsSound where
  document_lt name d hd := by
    simp only [Documents.lookup_erase] at hd
    split at hd
    · cases hd
    · exact h.document_lt name d hd
  insertion_lt := h.insertion_lt
  same_document r hr d hd hinsertion := by
    simp only [Documents.lookup_erase] at hd
    split at hd
    · cases hd
    · exact h.same_document r hr d hd hinsertion
  version_le := h.version_le
  same_profile := h.same_profile
  id_lt := h.id_lt
  ids_nodup := h.ids_nodup

/-- New settings may come into force: their version is new. -/
theorem RunsSound.configure {s : State} (h : s.RunsSound)
    (hversion : s.config.version = s.counter) (profile : Option Profile) :
    RunsSound { s with counter := s.counter + 1, config := ⟨s.counter + 1, profile⟩ } where
  document_lt := h.document_lt
  insertion_lt := h.insertion_lt
  same_document := h.same_document
  version_le r hr := by
    have hle := h.version_le r hr
    change r.version ≤ s.counter + 1
    omega
  same_profile r hr hnew := by
    have hle := h.version_le r hr
    change r.version = s.counter + 1 at hnew
    omega
  id_lt := h.id_lt
  ids_nodup := h.ids_nodup

/-- What is known of runs does not hang on the batches. -/
theorem RunsSound.with_batches {s : State} (h : s.RunsSound) (batches : List Batch)
    (started : Nat) : ({ s with batches, batchesStarted := started } : State).RunsSound :=
  ⟨h.document_lt, h.insertion_lt, h.same_document, h.version_le, h.same_profile, h.id_lt,
    h.ids_nodup⟩

/-! ## Batches -/

/-- What is known of batches hangs on the settings alone. -/
theorem BatchesSound.of_eq {s t : State} (h : s.BatchesSound) (hbatches : t.batches = s.batches)
    (hstarted : s.batchesStarted ≤ t.batchesStarted) (hconfig : t.config = s.config) :
    t.BatchesSound where
  id_lt b hb := Nat.lt_of_lt_of_le (h.id_lt b (hbatches ▸ hb)) hstarted
  ids_nodup := hbatches ▸ h.ids_nodup
  version_le b hb := hconfig ▸ h.version_le b (hbatches ▸ hb)
  profile b hb := hconfig ▸ h.profile b (hbatches ▸ hb)

/-- A batch may be put in the place of one with its identifier and its version. -/
theorem BatchesSound.storeBatch {s : State} (h : s.BatchesSound) {b c : Batch}
    (hb : b ∈ s.batches) (hid : c.id = b.id) (hversion : c.version = b.version) :
    (s.storeBatch c).BatchesSound := by
  have hcases : ∀ a ∈ (s.storeBatch c).batches, ∃ a' ∈ s.batches,
      a.id = a'.id ∧ a.version = a'.version := by
    intro a ha
    obtain ⟨a', ha', rfl⟩ := List.mem_map.mp ha
    split
    · exact ⟨b, hb, hid, hversion⟩
    · exact ⟨a', ha', rfl, rfl⟩
  have hids : (s.storeBatch c).batches.map Batch.id = s.batches.map Batch.id := by
    simp only [State.storeBatch, List.map_map]
    refine List.map_congr_left fun a _ => ?_
    simp only [Function.comp]
    split
    · rename_i ha
      exact ha.symm
    · rfl
  refine ⟨?_, hids ▸ h.ids_nodup, ?_, ?_⟩
  · intro a ha
    obtain ⟨a', ha', heq, _⟩ := hcases a ha
    exact heq ▸ h.id_lt a' ha'
  · intro a ha
    obtain ⟨a', ha', _, heq⟩ := hcases a ha
    exact heq ▸ h.version_le a' ha'
  · intro a ha hcurrent
    obtain ⟨a', ha', _, heq⟩ := hcases a ha
    exact h.profile a' ha' (heq ▸ hcurrent)

/-- A batch may be dropped. -/
theorem BatchesSound.dropBatch {s : State} (h : s.BatchesSound) (c : Batch) :
    (s.dropBatch c).BatchesSound where
  id_lt b hb := h.id_lt b (List.mem_of_mem_filter hb)
  ids_nodup := h.ids_nodup.sublist (List.filter_sublist.map Batch.id)
  version_le b hb := h.version_le b (List.mem_of_mem_filter hb)
  profile b hb := h.profile b (List.mem_of_mem_filter hb)

/-! ## Steps -/

variable {s : State}

theorem Sound.begin (h : s.Sound) {new : List Run} (hfresh : ∀ r ∈ new, s.Fresh r)
    (hids : new.map Run.id = List.range' s.runsStarted new.length) : (s.begin new).Sound :=
  ⟨h.version, h.runs.begin hfresh hids, h.batches.of_eq rfl (Nat.le_refl _) rfl⟩

theorem Sound.endRun (h : s.Sound) (id : Nat) : (s.endRun id).Sound :=
  ⟨h.version, h.runs.endRun id, h.batches.of_eq rfl (Nat.le_refl _) rfl⟩

theorem Sound.insert (h : s.Sound) (uri text : String) : (s.insert uri text).Sound :=
  ⟨h.version, h.runs.insert uri text, h.batches.of_eq rfl (Nat.le_refl _) rfl⟩

theorem Sound.erase (h : s.Sound) (uri : String) :
    ({ s with documents := s.documents.erase uri } : State).Sound :=
  ⟨h.version, h.runs.erase uri, h.batches.of_eq rfl (Nat.le_refl _) rfl⟩

theorem Sound.validateSingle (h : s.Sound) (uri : String) : (s.validateSingle uri).1.Sound := by
  have hvalidated := s.validateSingle_validated h.version uri
  generalize s.validateSingle uri = reaction at hvalidated
  cases hvalidated with
  | unopened | cleared => exact h
  | started run hfresh huri hid =>
      exact h.begin (by simpa using hfresh) (by simp [hid])

/-- Going on with a batch keeps what holds in every state. -/
theorem Sound.proceed (h : s.Sound) {a b : Batch} (ha : a ∈ s.batches) (hid : b.id = a.id)
    (hversion : b.version = a.version) : (s.proceed b).1.Sound := by
  obtain ⟨taken, new, c, sent, hfilled, -, hproceed⟩ := s.proceed_filled b h.version
  have hnew := h.begin hfilled.fresh hfilled.ids
  have hcid : c.id = a.id := hfilled.id_eq.trans hid
  have hcversion : c.version = a.version := hfilled.version_eq.trans hversion
  rw [hproceed]
  split
  · exact ⟨hnew.version, hnew.runs.with_batches _ _, hnew.batches.dropBatch c⟩
  · exact ⟨hnew.version, hnew.runs.with_batches _ _,
      hnew.batches.storeBatch ha hcid hcversion⟩

/-- The batch for all open documents under the settings in force. -/
def wholeBatch (s : State) : Batch :=
  let names := s.machine.arrange s.batchesStarted (s.documents.map Prod.fst)
  ⟨s.batchesStarted, s.config.version,
    .ofItems (batchLimit s.machine.parallelism names.length) names, .empty⟩

/-- The state in which that batch has been opened. -/
def openBatch (s : State) : State :=
  { s with batches := s.batches ++ [s.wholeBatch], batchesStarted := s.batchesStarted + 1 }

theorem validateAll_eq (s : State) :
    s.validateAll s.config.version =
      if s.documents.isEmpty then (s, []) else s.openBatch.proceed s.wholeBatch := rfl

theorem wholeBatch_mem (s : State) : s.wholeBatch ∈ s.openBatch.batches :=
  List.mem_append_right _ (List.mem_singleton.mpr rfl)

/-- The batch for all documents has an identifier of its own. -/
theorem Sound.id_ne_wholeBatch (h : s.Sound) : ∀ b ∈ s.batches, b.id ≠ s.wholeBatch.id :=
  fun b hb => Nat.ne_of_lt (h.batches.id_lt b hb)

/-- With a profile the new batch is one that may be waited for. -/
theorem Sound.openBatch (h : s.Sound) (hprofile : s.config.profile ≠ none) :
    s.openBatch.Sound where
  version := h.version
  runs := h.runs.with_batches _ _
  batches := by
    refine ⟨?_, ?_, ?_, fun _ _ _ => hprofile⟩
    · intro b hb
      rcases List.mem_append.mp hb with hb | hb
      · exact Nat.lt_succ_of_lt (h.batches.id_lt b hb)
      · rw [List.mem_singleton.mp hb]
        exact Nat.lt_succ_self _
    · simp only [State.openBatch, List.map_append, List.map_cons, List.map_nil]
      refine List.nodup_append.mpr ⟨h.batches.ids_nodup, List.nodup_singleton _, ?_⟩
      intro id hid other hother
      obtain ⟨b, hb, rfl⟩ := List.mem_map.mp hid
      rw [List.mem_singleton.mp hother]
      exact h.id_ne_wholeBatch b hb
    · intro b hb
      rcases List.mem_append.mp hb with hb | hb
      · exact h.batches.version_le b hb
      · rw [List.mem_singleton.mp hb]
        exact Nat.le_refl _

/-- Without a profile the batch for all documents has ended when the step ends. -/
theorem Sound.proceed_wholeBatch (h : s.Sound) (hprofile : s.config.profile = none) :
    ∃ taken new c sent, s.openBatch.Filled s.wholeBatch taken new c sent ∧
      s.openBatch.proceed s.wholeBatch =
        ((s.openBatch.begin new).dropBatch c, sent ++ closing c) ∧
      ((s.openBatch.begin new).dropBatch c).batches = s.batches := by
  obtain ⟨taken, new, c, sent, hfilled, hc, hproceed⟩ :=
    s.openBatch.proceed_filled s.wholeBatch h.version
  have hdone : c.pool.isDone = true := by
    rw [hc]
    exact fill_isDone _ _ _ h.version hprofile rfl
      (Nat.lt_of_lt_of_le Nat.zero_lt_one (Nat.le_max_right _ 1)) (Nat.lt_succ_self _)
  refine ⟨taken, new, c, sent, hfilled, by simpa [hdone] using hproceed, ?_⟩
  have hids : ∀ b ∈ s.batches, b.id ≠ c.id := fun b hb => hfilled.id_eq ▸ h.id_ne_wholeBatch b hb
  simp only [State.dropBatch, State.begin, State.openBatch, List.filter_append]
  rw [List.filter_eq_self.mpr (by simpa using hids)]
  simp [hfilled.id_eq]

theorem Sound.validateAll (h : s.Sound) : (s.validateAll s.config.version).1.Sound := by
  rw [validateAll_eq]
  split
  · exact h
  · cases hprofile : s.config.profile with
    | some p =>
        exact (h.openBatch (by simp [hprofile])).proceed s.wholeBatch_mem rfl rfl
    | none =>
        -- The state between is not sound: a batch waits without a profile. It is gone at the end.
        obtain ⟨taken, new, c, sent, hfilled, hproceed, hbatches⟩ := h.proceed_wholeBatch hprofile
        rw [hproceed]
        refine ⟨h.version, ?_, ?_⟩
        · exact (RunsSound.begin (h.runs.with_batches _ _) hfilled.fresh hfilled.ids).with_batches
            _ _
        · exact h.batches.of_eq hbatches (Nat.le_succ _) rfl

/-- The profile that settings choose, unless they cannot be read or used. -/
def accepted? (payload : Value) : Option (Option Profile) :=
  (Settings.ofPayload payload).toOption.bind fun settings => settings.resolve.toOption

/-- The state in which new settings have come into force. -/
def accept (s : State) (profile : Option Profile) : State :=
  { s with counter := s.counter + 1, config := ⟨s.counter + 1, profile⟩ }

/-- Settings are refused with an error, or they come into force and all documents are
validated. -/
theorem configure_cases (s : State) (payload : Value) :
    (accepted? payload = none ∧ ∃ text, s.configure payload = (s, [.showError text])) ∨
      ∃ profile, accepted? payload = some profile ∧
        s.configure payload =
          (((s.accept profile).validateAll (s.counter + 1)).1,
            .logInfo (profileText profile) ::
              ((s.accept profile).validateAll (s.counter + 1)).2) := by
  simp only [configure, accepted?]
  cases Settings.ofPayload payload with
  | error m => exact .inl ⟨rfl, _, rfl⟩
  | ok settings =>
      simp only [Except.toOption, Option.bind_some]
      cases settings.resolve with
      | error f => exact .inl ⟨rfl, _, rfl⟩
      | ok profile => exact .inr ⟨profile, rfl, rfl⟩

theorem Sound.accept (h : s.Sound) (profile : Option Profile) : (s.accept profile).Sound where
  version := rfl
  runs := h.runs.configure h.version profile
  batches := by
    have hlt : ∀ b ∈ s.batches, b.version < s.counter + 1 := fun b hb =>
      Nat.lt_succ_of_le (h.version ▸ h.batches.version_le b hb)
    exact ⟨h.batches.id_lt, h.batches.ids_nodup, fun b hb => Nat.le_of_lt (hlt b hb),
      fun b hb hcurrent => absurd hcurrent (Nat.ne_of_lt (hlt b hb))⟩

theorem Sound.configure (h : s.Sound) (payload : Value) : (s.configure payload).1.Sound := by
  rcases s.configure_cases payload with ⟨-, text, heq⟩ | ⟨profile, -, heq⟩
  · rw [heq]
    exact h
  · rw [heq]
    exact (h.accept profile).validateAll

/-- Noting what came of a run changes nothing about a batch but its pool and its failures. -/
theorem record_same (b : Batch) (ticket : Nat) (v : Verdict) :
    (record b ticket v).id = b.id ∧ (record b ticket v).version = b.version ∧
      (record b ticket v).pool.waiting = b.pool.waiting := by
  cases v <;> exact ⟨rfl, rfl, rfl⟩

theorem Sound.finish (h : s.Sound) (id : Nat) (result : RunResult) :
    (s.finish id result).1.Sound := by
  have hfinished := s.finish_finished id result
  generalize s.finish id result = reaction at hfinished
  cases hfinished with
  | unknown => exact h
  | alone | stray => exact h.endRun id
  | batched run hmem hid place hplace b hb hbatch hproceed =>
      obtain ⟨hrid, hrversion, -⟩ := record_same b place.ticket (s.verdict run result)
      have hsound := (h.endRun id).proceed hb hrid hrversion
      rw [hproceed] at hsound
      exact hsound

end State

/-- Every step keeps what holds in every state. -/
theorem step_sound {s : State} (h : s.Sound) (e : Event) : (step s e).1.Sound := by
  cases e with
  | opened uri text => exact (h.insert uri text).validateSingle uri
  | changed uri text =>
      cases text with
      | none => exact h
      | some text => exact (h.insert uri text).validateSingle uri
  | saved uri text =>
      cases text with
      | none => exact h.validateSingle uri
      | some text => exact (h.insert uri text).validateSingle uri
  | closed uri => exact h.erase uri
  | configured payload => exact h.configure payload
  | finished run result => exact h.finish run result

end ContainerLint.Server
