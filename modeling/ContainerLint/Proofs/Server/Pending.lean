import ContainerLint.Proofs.Server.History

/-!
# Documents that are still waited for

A document is pending when its diagnostics are still to come: a fresh run goes on for it, or a
batch has still to start one. `step_attends` says that no step forgets a document. Whatever
happens to a document or to the settings makes it pending or publishes for it at once, and a
document that is pending stays so until something is published for it or a run of it fails.
-/

namespace ContainerLint.Server

/-- The run has no diagnostics to show: docker reported a fault, or the linter failed or
crashed. -/
def RunResult.Fails : RunResult → Prop
  | .outcome o => o.daemonError ≠ none
  | .failed _ => True
  | .crashed _ => True

/-- The event is the end of a fresh run of a document, which failed. -/
def State.FailsFor (s : State) (uri : String) : Event → Prop
  | .finished id result => result.Fails ∧ ∃ r ∈ s.runs, r.id = id ∧ r.uri = uri ∧ s.Fresh r
  | _ => False

namespace State

variable {s t : State} {uri name : String} {d : Document}

/-- A fresh run goes on for a document, or a batch under the settings in force has still to come
to it. -/
def Pending (s : State) (uri : String) : Prop :=
  (∃ r ∈ s.runs, r.uri = uri ∧ s.Fresh r) ∨
    ∃ b ∈ s.batches, b.version = s.config.version ∧ uri ∈ b.pool.waiting

/-- What happens to other documents does not matter. -/
theorem Pending.of_lookup (h : s.Pending uri) (hruns : t.runs = s.runs)
    (hbatches : t.batches = s.batches) (hconfig : t.config = s.config)
    (hlookup : t.documents.lookup uri = s.documents.lookup uri) : t.Pending uri := by
  rcases h with ⟨r, hr, rfl, hfresh⟩ | ⟨b, hb, hcurrent, hmem⟩
  · exact .inl ⟨r, hruns ▸ hr, rfl, hlookup.trans hfresh.document, hconfig.trans hfresh.config⟩
  · exact .inr ⟨b, hbatches ▸ hb, by rw [hcurrent, hconfig], hmem⟩

/-- Validating one document forgets no other. -/
theorem Pending.validateSingle (hversion : s.config.version = s.counter) (h : s.Pending uri)
    (name : String) : (s.validateSingle name).1.Pending uri := by
  have hvalidated := s.validateSingle_validated hversion name
  generalize s.validateSingle name = reaction at hvalidated
  cases hvalidated with
  | unopened | cleared => exact h
  | started run =>
      rcases h with ⟨r, hr, huri, hfresh⟩ | hqueued
      · exact .inl ⟨r, List.mem_append_left _ hr, huri, fresh_begin.mpr hfresh⟩
      · exact .inr hqueued

/-- An open document that is validated is pending, or something is published for it. -/
theorem validateSingle_attends (hversion : s.config.version = s.counter)
    (hopen : s.documents.lookup uri = some d) :
    (s.validateSingle uri).1.Pending uri ∨
      ∃ ds, Effect.publish uri ds ∈ (s.validateSingle uri).2 := by
  have hvalidated := s.validateSingle_validated hversion uri
  generalize s.validateSingle uri = reaction at hvalidated
  cases hvalidated with
  | unopened hnone => cases hopen.symm.trans hnone
  | cleared => exact .inr ⟨[], List.mem_singleton.mpr rfl⟩
  | started run hfresh huri =>
      exact .inl (.inl ⟨run, List.mem_append_right _ (List.mem_singleton.mpr rfl), huri,
        fresh_begin.mpr hfresh⟩)

/-- A batch that goes on forgets no document. Here `b` has the documents that wait in the batch of
the state with its identifier, if there is one. -/
theorem Pending.proceed (hversion : s.config.version = s.counter) {b : Batch}
    (hb : ∀ a ∈ s.batches, a.id = b.id →
      a.version = b.version ∧ a.pool.waiting = b.pool.waiting)
    (hopen : s.documents.lookup uri = some d) (h : s.Pending uri) :
    (s.proceed b).1.Pending uri ∨ ∃ ds, Effect.publish uri ds ∈ (s.proceed b).2 := by
  obtain ⟨taken, new, c, sent, hfilled, -, hproceed⟩ := s.proceed_filled b hversion
  have hworks := s.works_proceed hversion b
  have hcid := hfilled.id_eq
  rcases h with ⟨r, hr, huri, hfresh⟩ | ⟨a, ha, hcurrent, hmem⟩
  · exact .inl (.inl ⟨r, hworks.kept r hr, huri, hworks.fresh_iff.mpr hfresh⟩)
  · by_cases haid : a.id = b.id
    · obtain ⟨hsame, hwaiting⟩ := hb a ha haid
      rw [hwaiting, hfilled.waiting] at hmem
      rcases List.mem_append.mp hmem with hmem | hmem
      · -- The batch has come to the document.
        rcases hfilled.cover (hsame ▸ hcurrent) uri hmem d hopen with ⟨r, hr, huri⟩ | hclear
        · refine .inl (.inl ⟨r, ?_, huri, hworks.fresh_iff.mpr (hfilled.fresh r hr)⟩)
          rw [hproceed]
          split <;> exact List.mem_append_right _ hr
        · refine .inr ⟨[], ?_⟩
          rw [hproceed]
          split
          · exact List.mem_append_left _ hclear
          · exact hclear
      · -- The document still waits, so the batch is not done.
        have hgoes : c.pool.isDone = false := by
          cases hc : c.pool.waiting with
          | nil => simp [hc] at hmem
          | cons => simp [Pool.isDone, hc]
        refine .inl (.inr ⟨c, ?_, ?_, hmem⟩)
        · simp only [hproceed, hgoes]
          exact List.mem_map.mpr ⟨a, ha, by simp [haid, hcid]⟩
        · rw [hworks.config, hfilled.version_eq, ← hsame]
          exact hcurrent
    · have hne : a.id ≠ c.id := hcid ▸ haid
      refine .inl (.inr ⟨a, ?_, hworks.config ▸ hcurrent, hmem⟩)
      rw [hproceed]
      split
      · exact List.mem_filter.mpr ⟨ha, by simpa using hne⟩
      · exact List.mem_map.mpr ⟨a, ha, by simp [hne]⟩

/-- When new settings come into force, every open document is pending, or something is published
for it. -/
theorem validateAll_attends (hs : s.Sound) (hopen : s.documents.lookup uri = some d) :
    (s.validateAll s.config.version).1.Pending uri ∨
      ∃ ds, Effect.publish uri ds ∈ (s.validateAll s.config.version).2 := by
  have hmem : uri ∈ s.documents.map Prod.fst := (Documents.mem_names _ _).mpr ⟨d, hopen⟩
  have hsome : s.documents.isEmpty = false := by
    cases hdocuments : s.documents with
    | nil => simp [hdocuments] at hmem
    | cons => rfl
  have hpending : s.openBatch.Pending uri :=
    .inr ⟨s.wholeBatch, s.wholeBatch_mem, rfl, (s.machine.arrange_perm _ _).mem_iff.mpr hmem⟩
  rw [validateAll_eq, hsome]
  refine Pending.proceed (s := s.openBatch) hs.version ?_ hopen hpending
  intro a ha hid
  rcases List.mem_append.mp ha with ha | ha
  · exact absurd hid (hs.id_ne_wholeBatch a ha)
  · rw [List.mem_singleton.mp ha]
    exact ⟨rfl, rfl⟩

/-- A run that ends leaves every document pending, except for its own if the run is fresh. -/
theorem Pending.endRun (h : s.Pending uri) (id : Nat) :
    (s.endRun id).Pending uri ∨ ∃ r ∈ s.runs, r.id = id ∧ r.uri = uri ∧ s.Fresh r := by
  rcases h with ⟨r, hr, huri, hfresh⟩ | hqueued
  · by_cases hid : r.id = id
    · exact .inr ⟨r, hr, hid, huri, hfresh⟩
    · exact .inl (.inl ⟨r, List.mem_filter.mpr ⟨hr, by simpa using hid⟩, huri,
        ⟨hfresh.document, hfresh.config⟩⟩)
  · exact .inl (.inr hqueued)

/-- A fresh run that ends has diagnostics to publish, or it failed. -/
theorem Fresh.publishes_or_fails {run : Run} (h : s.Fresh run)
    (hversion : s.config.version = s.counter) (result : RunResult) :
    (∃ ds, s.verdict run result = .publish ds) ∨ result.Fails := by
  cases result with
  | failed | crashed => exact .inr trivial
  | outcome o =>
      cases hdaemon : o.daemonError with
      | some message => exact .inr (by simp [RunResult.Fails, hdaemon])
      | none =>
          have hcounts := h.counts hversion
          exact .inl ⟨_, by simp only [verdict, hcounts, if_true, hdaemon]; rfl⟩

/-- The end of a run forgets no document, unless the run failed. -/
theorem Pending.finish (hs : s.Sound) {id : Nat} {result : RunResult}
    (hopen : s.documents.lookup uri = some d) (h : s.Pending uri) :
    (s.finish id result).1.Pending uri ∨
      (∃ ds, Effect.publish uri ds ∈ (s.finish id result).2) ∨
      s.FailsFor uri (.finished id result) := by
  have hfinished := s.finish_finished id result
  generalize s.finish id result = reaction at hfinished
  have hverdict : ∀ run ∈ s.runs, run.id = id →
      (∃ r ∈ s.runs, r.id = id ∧ r.uri = uri ∧ s.Fresh r) →
      (∃ ds, s.verdict run result = .publish ds ∧ run.uri = uri) ∨
        s.FailsFor uri (.finished id result) := by
    rintro run hmem hid ⟨r, hr, hrid, huri, hfresh⟩
    obtain rfl : run = r := hs.runs.eq_of_id hmem hr (hid.trans hrid.symm)
    rcases hfresh.publishes_or_fails hs.version result with ⟨ds, hv⟩ | hfails
    · exact .inl ⟨ds, hv, huri⟩
    · exact .inr ⟨hfails, run, hmem, hid, huri, hfresh⟩
  cases hfinished with
  | unknown => exact .inl h
  | alone run hmem hid =>
      rcases h.endRun id with hpending | hfresh
      · exact .inl hpending
      · rcases hverdict run hmem hid hfresh with ⟨ds, hv, huri⟩ | hfails
        · exact .inr (.inl ⟨ds, by simp [hv, huri, singleEffects]⟩)
        · exact .inr (.inr hfails)
  | stray run hmem hid =>
      rcases h.endRun id with hpending | hfresh
      · exact .inl hpending
      · rcases hverdict run hmem hid hfresh with ⟨ds, hv, huri⟩ | hfails
        · exact .inr (.inl ⟨ds, by simp [hv, huri, batchEffects]⟩)
        · exact .inr (.inr hfails)
  | batched run hmem hid place hplace b hb hbatch hproceed =>
      rcases h.endRun id with hpending | hfresh
      · obtain ⟨hrid, hrversion, hrwaiting⟩ := record_same b place.ticket (s.verdict run result)
        have hsame : ∀ a ∈ (s.endRun id).batches,
            a.id = (record b place.ticket (s.verdict run result)).id →
              a.version = (record b place.ticket (s.verdict run result)).version ∧
                a.pool.waiting = (record b place.ticket (s.verdict run result)).pool.waiting := by
          intro a ha haid
          rw [hs.batches.eq_of_id ha hb (haid.trans hrid), hrversion, hrwaiting]
          exact ⟨rfl, rfl⟩
        have hgoes := Pending.proceed (s := s.endRun id) hs.version hsame hopen hpending
        rw [hproceed] at hgoes
        rcases hgoes with hpending | ⟨ds, hds⟩
        · exact .inl hpending
        · exact .inr (.inl ⟨ds, List.mem_append_right _ hds⟩)
      · rcases hverdict run hmem hid hfresh with ⟨ds, hv, huri⟩ | hfails
        · exact .inr (.inl ⟨ds, List.mem_append_left _ (by simp [hv, huri, batchEffects])⟩)
        · exact .inr (.inr hfails)

/-- Putting in a document and validating it forgets no document: the new one is attended to, and
the others are as they were. -/
theorem insert_attends (hs : s.Sound) {name text : String}
    (hopen : (s.insert name text).documents.lookup uri = some d) :
    ((s.insert name text).validateSingle name).1.Pending uri ∨
      (∃ ds, Effect.publish uri ds ∈ ((s.insert name text).validateSingle name).2) ∨
      (s.documents.lookup uri = some d ∧ ¬ s.Pending uri) := by
  by_cases hname : uri = name
  · subst hname
    exact (validateSingle_attends (s := s.insert uri text) hs.version hopen).imp_right .inl
  · have hlookup : (s.insert name text).documents.lookup uri = s.documents.lookup uri := by
      simp [insert, Documents.lookup_set, hname]
    by_cases hpending : s.Pending uri
    · have hkept : (s.insert name text).Pending uri := hpending.of_lookup rfl rfl rfl hlookup
      exact .inl (Pending.validateSingle (s := s.insert name text) hs.version hkept name)
    · exact .inr (.inr ⟨hlookup ▸ hopen, hpending⟩)

end State

/-- No step forgets an open document: it is pending then, or something is published for it, or a
run of it failed, or nothing happened to it and it was not pending before. -/
theorem step_attends {s : State} (hs : s.Sound) {e : Event} {uri : String} {d : Document}
    (hopen : (step s e).1.documents.lookup uri = some d) :
    (step s e).1.Pending uri ∨ (∃ ds, Effect.publish uri ds ∈ (step s e).2) ∨ s.FailsFor uri e ∨
      (s.documents.lookup uri = some d ∧ (step s e).1.config = s.config ∧ ¬ s.Pending uri) := by
  have hworks := step_works hs e
  have hversion := (hs.noted e).version
  rw [hworks.documents] at hopen
  rw [hworks.config]
  cases e with
  | opened name text =>
      exact (State.insert_attends hs hopen).imp_right
        (.imp_right fun h => .inr ⟨h.1, rfl, h.2⟩)
  | changed name text =>
      cases text with
      | none =>
          by_cases hpending : s.Pending uri
          · exact .inl hpending
          · exact .inr (.inr (.inr ⟨hopen, rfl, hpending⟩))
      | some text =>
          exact (State.insert_attends hs hopen).imp_right
            (.imp_right fun h => .inr ⟨h.1, rfl, h.2⟩)
  | saved name text =>
      cases text with
      | none =>
          -- The text is as it was, but it is validated again.
          by_cases hname : uri = name
          · subst hname
            exact (State.validateSingle_attends hs.version hopen).imp_right .inl
          · by_cases hpending : s.Pending uri
            · exact .inl (hpending.validateSingle hs.version name)
            · exact .inr (.inr (.inr ⟨hopen, rfl, hpending⟩))
      | some text =>
          exact (State.insert_attends hs hopen).imp_right
            (.imp_right fun h => .inr ⟨h.1, rfl, h.2⟩)
  | closed name =>
      have hlookup : (s.documents.erase name).lookup uri = s.documents.lookup uri := by
        simp only [State.noted, Documents.lookup_erase] at hopen
        rw [Documents.lookup_erase]
        split at hopen
        · cases hopen
        · rename_i hname
          rw [if_neg hname]
      by_cases hpending : s.Pending uri
      · exact .inl (hpending.of_lookup rfl rfl rfl hlookup)
      · exact .inr (.inr (.inr ⟨hlookup ▸ hopen, rfl, hpending⟩))
  | configured payload =>
      simp only [step, State.noted] at hopen ⊢
      rcases s.configure_cases payload with ⟨hrefused, text, heq⟩ | ⟨profile, haccepted, heq⟩
      · rw [heq, hrefused]
        rw [hrefused] at hopen
        by_cases hpending : s.Pending uri
        · exact .inl hpending
        · exact .inr (.inr (.inr ⟨hopen, rfl, hpending⟩))
      · rw [heq, haccepted]
        rw [haccepted] at hopen
        rcases State.validateAll_attends (hs.accept profile) hopen with hpending | ⟨ds, hds⟩
        · exact .inl hpending
        · exact .inr (.inl ⟨ds, List.mem_cons_of_mem _ hds⟩)
  | finished id result =>
      by_cases hpending : s.Pending uri
      · rcases hpending.finish hs hopen with hgoes | hpublished | hfails
        · exact .inl hgoes
        · exact .inr (.inl hpublished)
        · exact .inr (.inr (.inl hfails))
      · exact .inr (.inr (.inr ⟨hopen, rfl, hpending⟩))

end ContainerLint.Server
