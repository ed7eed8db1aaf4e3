import ContainerLint.Proofs.Server.Freshness
import ContainerLint.Proofs.Server.Pending

/-!
# What an editor shows in the end

Suppose that a run finds what a function says for its profile and its text. Once no run goes on
and no document waits, an editor shows for every open document what the profile in force finds on
its text, and nothing for those that were closed (`converged`). The invariant is `History.shown`:
an open document is pending, or what it should show was published last.
-/

namespace ContainerLint.Server

/-- The runtime in which every run ends with the outcome that a function gives for its profile and
its text, and docker reports no fault. -/
def Runtime.clean (lint : Profile → String → Outcome) : Runtime := fun p text result =>
  result = .outcome (lint p text) ∧ (lint p text).daemonError = none

/-- What is published for a document. -/
def Effect.published? (uri : String) : Effect → Option (List EditorDiagnostic)
  | .publish name ds => if name = uri then some ds else none
  | _ => none

/-- What was published last for a document. -/
def lastPublished (uri : String) (sent : List Effect) : Option (List EditorDiagnostic) :=
  (sent.filterMap (Effect.published? uri)).getLast?

/-- What an editor should show for a document: what the profile in force finds on its text. -/
def State.expected (s : State) (lint : Profile → String → Outcome) (d : Document) :
    List EditorDiagnostic :=
  match s.config.profile with
  | some p => EditorDiagnostic.ofDiagnostics p.linter.name (lint p d.text).diagnostics
  | none => []

/-- No run goes on and no document waits in a batch. -/
structure State.Quiet (s : State) : Prop where
  runs : s.runs = []
  waiting : ∀ b ∈ s.batches, b.pool.waiting = []

/-- The event is a message of the editor. -/
def Event.isMessage : Event → Bool
  | .finished .. => false
  | _ => true

/-- The messages among some events. -/
def messages (events : List Event) : List Event := events.filter Event.isMessage

variable {runtime : Runtime} {lint : Profile → String → Outcome} {machine : Machine}
  {events : List Event} {s t : State} {sent more : List Effect} {uri : String} {d : Document}
  {ds : List EditorDiagnostic}

/-! ## What was published last -/

theorem published?_eq_some {e : Effect} : e.published? uri = some ds ↔ e = .publish uri ds := by
  cases e with
  | publish name found =>
      simp only [Effect.published?]
      split
      · rename_i hname
        simp [hname]
      · rename_i hname
        simp [hname]
  | showError | logInfo | logError | start => simp [Effect.published?]

theorem lastPublished_append (uri : String) (sent more : List Effect) :
    lastPublished uri (sent ++ more) = (lastPublished uri more).or (lastPublished uri sent) := by
  rw [lastPublished, List.filterMap_append, List.getLast?_append]
  rfl

theorem mem_of_lastPublished (h : lastPublished uri sent = some ds) :
    Effect.publish uri ds ∈ sent := by
  obtain ⟨e, he, hds⟩ := List.mem_filterMap.mp (List.mem_of_getLast? h)
  rw [← published?_eq_some.mp hds]
  exact he

theorem lastPublished_eq_none :
    lastPublished uri sent = none ↔ ∀ ds, Effect.publish uri ds ∉ sent := by
  rw [lastPublished, List.getLast?_eq_none_iff, List.filterMap_eq_nil_iff]
  constructor
  · intro h ds hmem
    have hnone := h _ hmem
    rw [published?_eq_some.mpr rfl] at hnone
    cases hnone
  · intro h e he
    cases hpublished : e.published? uri with
    | none => rfl
    | some ds => exact absurd (published?_eq_some.mp hpublished ▸ he) (h ds)

/-! ## Open documents -/

/-- What is published for an open document is what it should show. -/
theorem publish_expected (hs : s.Sound) {e : Event} (hadmits : s.Admits (.clean lint) e)
    (hpublish : Effect.publish uri ds ∈ (step s e).2)
    (hopen : (step s e).1.documents.lookup uri = some d) :
    ds = (step s e).1.expected lint d := by
  rcases publish_cases hs hpublish with ⟨rfl, rfl | ⟨hprofile, -⟩⟩ |
    ⟨run, hmem, o, rfl, rfl, -, hdocument, hconfig, hds⟩
  · have hclosed : (s.documents.erase uri).lookup uri = some d := hopen
    simp [Documents.lookup_erase] at hclosed
  · rw [State.expected, hprofile]
  · obtain ⟨hresult, -⟩ := hadmits run hmem rfl
    obtain rfl : o = lint run.profile run.document.text := RunResult.outcome.inj hresult
    obtain rfl : d = run.document := Option.some.inj (hopen.symm.trans hdocument)
    rw [hds, State.expected, hconfig]

/-- In the clean runtime no run fails. -/
theorem not_failsFor_of_clean {e : Event} (hadmits : s.Admits (.clean lint) e) :
    ¬ s.FailsFor uri e := by
  cases e with
  | finished id result =>
      rintro ⟨hfails, r, hr, hid, -⟩
      obtain ⟨rfl, hclean⟩ := hadmits r hr hid
      exact hfails hclean
  | opened | changed | saved | closed | configured => exact id

/-- An open document is pending, or what it should show was published last. -/
theorem History.shown (h : History (.clean lint) machine events s sent)
    (hopen : s.documents.lookup uri = some d) :
    s.Pending uri ∨ lastPublished uri sent = some (s.expected lint d) := by
  induction h generalizing d with
  | start => simp [State.initial] at hopen
  | @step events s sent e h hadmits ih =>
      rw [lastPublished_append]
      cases hlast : lastPublished uri (Server.step s e).2 with
      | some ds =>
          rw [publish_expected h.sound hadmits (mem_of_lastPublished hlast) hopen]
          exact .inr rfl
      | none =>
          rcases step_attends h.sound hopen with hpending | ⟨ds, hds⟩ | hfails |
            ⟨hbefore, hconfig, hnot⟩
          · exact .inl hpending
          · exact absurd hds (lastPublished_eq_none.mp hlast ds)
          · exact absurd hfails (not_failsFor_of_clean hadmits)
          · -- Nothing happened to the document, so what was published for it still stands.
            rw [State.expected, hconfig]
            exact .inr ((ih hbefore).resolve_left hnot)

/-- In a quiet state no document is pending. -/
theorem State.Quiet.not_pending (h : s.Quiet) (uri : String) : ¬ s.Pending uri := by
  rintro (⟨r, hr, -⟩ | ⟨b, hb, -, hmem⟩)
  · simp [h.runs] at hr
  · simp [h.waiting b hb] at hmem

/-! ## Documents that are not open -/

/-- Only by closing it can an open document be lost. -/
theorem closed_of_lookup_noted {e : Event} (hopen : s.documents.lookup uri = some d)
    (hlost : (s.noted e).documents.lookup uri = none) : e = .closed uri := by
  have hinsert : ∀ name text, (s.insert name text).documents.lookup uri ≠ none := by
    intro name text
    simp only [State.insert, Documents.lookup_set]
    split
    · simp
    · simp [hopen]
  cases e with
  | opened name text => exact absurd hlost (hinsert name text)
  | changed name text | saved name text =>
      cases text with
      | none => cases hopen.symm.trans hlost
      | some text => exact absurd hlost (hinsert name text)
  | closed name =>
      simp only [State.noted, Documents.lookup_erase] at hlost
      split at hlost
      · rename_i hname
        rw [hname]
      · cases hopen.symm.trans hlost
  | configured payload =>
      simp only [State.noted] at hlost
      split at hlost <;> cases hopen.symm.trans hlost
  | finished id result => cases hopen.symm.trans hlost

/-- Nothing is published for a document that is not open, except when it is closed. -/
theorem publish_closed (hs : s.Sound) {e : Event}
    (hpublish : Effect.publish uri ds ∈ (step s e).2)
    (hclosed : (step s e).1.documents.lookup uri = none) : ds = [] ∧ e = .closed uri := by
  rcases publish_cases hs hpublish with ⟨hds, hclose | ⟨-, d, hopen⟩⟩ |
    ⟨run, -, o, -, -, -, hdocument, -⟩
  · exact ⟨hds, hclose⟩
  · cases hopen.symm.trans hclosed
  · cases hdocument.symm.trans hclosed

/-- For a document that is not open nothing was published last, or nothing ever if it was never
closed. -/
theorem History.shown_closed (h : History runtime machine events s sent)
    (hclosed : s.documents.lookup uri = none) :
    (.closed uri ∈ events → lastPublished uri sent = some []) ∧
      (.closed uri ∉ events → lastPublished uri sent = none) := by
  induction h with
  | start => exact ⟨fun hmem => by simp at hmem, fun _ => rfl⟩
  | @step events s sent e h hadmits ih =>
      rw [lastPublished_append]
      cases hlast : lastPublished uri (Server.step s e).2 with
      | some ds =>
          obtain ⟨rfl, rfl⟩ := publish_closed h.sound (mem_of_lastPublished hlast) hclosed
          exact ⟨fun _ => rfl, fun hnot => absurd (by simp) hnot⟩
      | none =>
          have hne : e ≠ .closed uri := by
            rintro rfl
            exact lastPublished_eq_none.mp hlast [] (List.mem_singleton.mpr rfl)
          have hbefore : s.documents.lookup uri = none := by
            cases hopen : s.documents.lookup uri with
            | none => rfl
            | some d =>
                rw [(step_works h.sound e).documents] at hclosed
                exact absurd (closed_of_lookup_noted hopen hclosed) hne
          simpa [hne.symm] using ih hbefore

/-! ## What the messages determine -/

/-- The part of a state that runs have no influence on. -/
def State.front (s : State) : Documents × Nat × ActiveConfig × Nat :=
  (s.documents, s.insertions, s.config, s.counter)

theorem front_noted (h : s.front = t.front) (e : Event) :
    (s.noted e).front = (t.noted e).front := by
  simp only [State.front, Prod.mk.injEq] at h
  obtain ⟨hdocuments, hinsertions, hconfig, hcounter⟩ := h
  cases e with
  | opened name text =>
      simp [State.front, State.noted, State.insert, hdocuments, hinsertions, hconfig, hcounter]
  | changed name text | saved name text =>
      cases text <;>
        simp [State.front, State.noted, State.insert, hdocuments, hinsertions, hconfig, hcounter]
  | closed name => simp [State.front, State.noted, hdocuments, hinsertions, hconfig, hcounter]
  | configured payload =>
      simp only [State.front, State.noted]
      split <;> simp [State.accept, hdocuments, hinsertions, hconfig, hcounter]
  | finished id result =>
      simp [State.front, State.noted, State.endRun, hdocuments, hinsertions, hconfig, hcounter]

theorem front_foldl_noted (events : List Event) (h : s.front = t.front) :
    (events.foldl State.noted s).front = (events.foldl State.noted t).front := by
  induction events generalizing s t with
  | nil => exact h
  | cons e events ih => exact ih (front_noted h e)

/-- Documents and settings are what the messages made of them. -/
theorem History.front_eq (h : History runtime machine events s sent) :
    s.front = ((messages events).foldl State.noted (.initial machine)).front := by
  induction h with
  | start => rfl
  | @step events s sent e h hadmits ih =>
      have hworks := step_works h.sound e
      have hfront : (Server.step s e).1.front = (s.noted e).front := by
        simp only [State.front, hworks.documents, hworks.insertions, hworks.config,
          hworks.counter]
      rw [hfront, messages, List.filter_append, List.foldl_append]
      cases e with
      | finished id result => exact ih
      | opened | changed | saved | closed | configured => exact front_noted ih _

/-- Two histories with the same messages lead to the same documents and settings. -/
theorem History.front_eq_of_messages {other : Machine} {first second : List Event}
    (hs : History runtime machine first s sent) (ht : History runtime other second t more)
    (h : messages first = messages second) : s.front = t.front := by
  rw [hs.front_eq, ht.front_eq, h]
  exact front_foldl_noted _ rfl

/-- A document that was open once is open, or it was closed. -/
theorem History.open_or_closed (h : History runtime machine events s sent) {before : List Event}
    (hbefore : before <+: events) (ht : History runtime machine before t more)
    (hopen : t.documents.lookup uri ≠ none) :
    s.documents.lookup uri ≠ none ∨ .closed uri ∈ events := by
  induction h with
  | start =>
      rw [List.prefix_nil.mp hbefore] at ht
      have hnone : t.documents = [] := congrArg Prod.fst ht.front_eq
      simp [hnone] at hopen
  | @step events s sent e h hadmits ih =>
      rcases List.prefix_concat_iff.mp hbefore with rfl | hbefore
      · have hfront := (h.step e hadmits).front_eq_of_messages ht rfl
        have hdocuments : (Server.step s e).1.documents = t.documents := congrArg Prod.fst hfront
        exact .inl (hdocuments ▸ hopen)
      · rcases ih hbefore with hstill | hclosed
        · obtain ⟨d, hd⟩ := Option.ne_none_iff_exists'.mp hstill
          rw [(step_works h.sound e).documents]
          by_cases hlost : (s.noted e).documents.lookup uri = none
          · exact .inr (by simp [closed_of_lookup_noted hd hlost])
          · exact .inl hlost
        · exact .inr (List.mem_append_left _ hclosed)

/-! ## The end -/

/-- Once nothing goes on and nothing waits, an editor shows for every open document what the
profile in force finds on its text, and nothing for the documents that were open once. The order
in which runs ended has no influence on it: any history with the same messages, on any machine,
ends in the same view. -/
theorem converged (h : History (.clean lint) machine events s sent) (hquiet : s.Quiet) :
    (∀ uri d, s.documents.lookup uri = some d →
      lastPublished uri sent = some (s.expected lint d)) ∧
    (∀ uri before t done, before <+: events → History (.clean lint) machine before t done →
      t.documents.lookup uri ≠ none → s.documents.lookup uri = none →
      lastPublished uri sent = some []) ∧
    ∀ other second t more, History (.clean lint) other second t more → t.Quiet →
      messages second = messages events →
      ∀ uri, lastPublished uri more = lastPublished uri sent := by
  have hshown : ∀ {other second t more}, History (.clean lint) other second t more → t.Quiet →
      ∀ uri d, t.documents.lookup uri = some d →
        lastPublished uri more = some (t.expected lint d) :=
    fun ht hquiet uri d hopen => (ht.shown hopen).resolve_left (hquiet.not_pending uri)
  refine ⟨hshown h hquiet, ?_, ?_⟩
  · intro uri before t done hbefore ht hopen hclosed
    have hmem := (h.open_or_closed hbefore ht hopen).resolve_left (by simp [hclosed])
    exact (h.shown_closed hclosed).1 hmem
  · intro other second t more ht htquiet hmessages uri
    have hfront := h.front_eq_of_messages ht hmessages.symm
    have hdocuments : s.documents = t.documents := congrArg Prod.fst hfront
    have hconfig : s.config = t.config := congrArg (fun front => front.2.2.1) hfront
    cases hopen : s.documents.lookup uri with
    | some d =>
        rw [hshown h hquiet uri d hopen, hshown ht htquiet uri d (hdocuments ▸ hopen),
          State.expected, State.expected, hconfig]
    | none =>
        -- Whether the document was ever closed can be seen from the messages.
        obtain ⟨hsome, hnone⟩ := h.shown_closed hopen
        have htclosed : t.documents.lookup uri = none := hdocuments ▸ hopen
        obtain ⟨htsome, htnone⟩ := ht.shown_closed htclosed
        have hiff : .closed uri ∈ second ↔ .closed uri ∈ events := by
          have hmem : ∀ l : List Event, .closed uri ∈ messages l ↔ .closed uri ∈ l := by
            simp [messages, Event.isMessage]
          rw [← hmem second, ← hmem events, hmessages]
        by_cases hclosed : .closed uri ∈ events
        · rw [hsome hclosed, htsome (hiff.mpr hclosed)]
        · rw [hnone hclosed, htnone (mt hiff.mp hclosed)]

/-- One run on one document, which ends: what it found is shown. -/
theorem converged_short :
    let outcome : Outcome := ⟨[.wholeLine 2 .error "E9"], none, some 1, ""⟩
    ∃ (p : Profile) (s : State) (sent : List Effect), History (.clean fun _ _ => outcome) .plain
        [.configured shortSettings, .opened "a.py" "x", .finished 0 (.outcome outcome)] s sent ∧
      s.Quiet ∧ s.documents.lookup "a.py" = some ⟨0, "x"⟩ ∧
      lastPublished "a.py" sent =
        some (EditorDiagnostic.ofDiagnostics p.linter.name [.wholeLine 2 .error "E9"]) := by
  intro outcome
  obtain ⟨p, hp⟩ := exists_shortProfile
  have hended := history_found (.clean fun _ _ => outcome) .plain hp "a.py" "x" rfl ⟨rfl, rfl⟩
  have hquiet : ((shortState .plain p "a.py" "x").endRun 0).Quiet :=
    ⟨by simp [shortState, State.endRun], by simp [shortState, State.endRun]⟩
  have hopen : ((shortState .plain p "a.py" "x").endRun 0).documents.lookup "a.py" =
      some ⟨0, "x"⟩ := by
    simp [shortState, State.endRun]
  exact ⟨p, _, _, hended, hquiet, hopen, (converged hended hquiet).1 "a.py" ⟨0, "x"⟩ hopen⟩

end ContainerLint.Server
