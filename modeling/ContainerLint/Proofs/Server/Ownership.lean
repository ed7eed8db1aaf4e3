import ContainerLint.Proofs.Server.Convergence
import ContainerLint.Proofs.Server.Versions

/-!
# Whose diagnostics are shown

What is published belongs to the profile in force at the time (`publish_owned`). It can outlive
that profile: once new settings are in force, every open document is validated, but when the run
of a document fails nothing is published, and the document keeps what the earlier profile found.
This is the only way in which it happens (`owned_iff`).
-/

namespace ContainerLint.Server

/-- Diagnostics belong to the settings in force: there are none, or the profile found them. -/
def State.Owns (s : State) (ds : List EditorDiagnostic) : Prop :=
  ds = [] ∨ ∃ p, s.config.profile = some p ∧ ∀ x ∈ ds, x.source = p.linter.name

/-- In the course of some events a fresh run of a document failed. -/
def State.Failed (s : State) (uri : String) (events : List Event) : Prop :=
  ∃ before e after, events = before ++ e :: after ∧ (s.after before).FailsFor uri e

/-- In the course of some events a document was validated without success: a run of it failed, and
nothing was published for it. -/
structure State.OnlyFailed (s : State) (uri : String) (events : List Event) : Prop where
  failed : s.Failed uri events
  unpublished : ∀ ds, Effect.publish uri ds ∉ s.effects events

/-- Some diagnostics were published last for a document when the settings in force were accepted,
and since then it was validated without success. -/
def Stranded (runtime : Runtime) (machine : Machine) (events : List Event) (uri : String)
    (ds : List EditorDiagnostic) : Prop :=
  ∃ before e after t sent, events = before ++ e :: after ∧
    History runtime machine before t sent ∧ e.Reconfigures ∧
    (∀ a ∈ after, ¬ a.Reconfigures) ∧ t.OnlyFailed uri (e :: after) ∧
    lastPublished uri sent = some ds

variable {runtime : Runtime} {machine : Machine} {events after : List Event} {s t : State}
  {sent : List Effect} {e : Event} {uri : String} {d : Document} {ds : List EditorDiagnostic}

/-! ## What is published is owned -/

theorem State.Owns.of_config (h : s.Owns ds) (hconfig : t.config = s.config) : t.Owns ds :=
  h.imp_right fun ⟨p, hp, hsource⟩ => ⟨p, hconfig ▸ hp, hsource⟩

/-- Without a profile there is nothing to own. -/
theorem State.Owns.eq_nil (h : s.Owns ds) (hprofile : s.config.profile = none) : ds = [] := by
  rcases h with hnil | ⟨p, hp, -⟩
  · exact hnil
  · cases hprofile.symm.trans hp

/-- What a step publishes belongs to the settings in force after it. -/
theorem publish_owned (hs : s.Sound) (h : Effect.publish uri ds ∈ (step s e).2) :
    (step s e).1.Owns ds := by
  rcases publish_cases hs h with ⟨hds, -⟩ | ⟨run, -, o, -, -, -, -, hconfig, rfl⟩
  · exact .inl hds
  · refine .inr ⟨run.profile, by rw [hconfig], fun x hx => ?_⟩
    obtain ⟨found, -, rfl⟩ := List.mem_map.mp hx
    rfl

/-- The settings stay in force until others are accepted. -/
theorem State.config_after (hs : s.Sound) (h : ∀ a ∈ events, ¬ a.Reconfigures) :
    (s.after events).config = s.config := by
  induction events generalizing s with
  | nil => rfl
  | cons e rest ih =>
      have hkept := Event.not_reconfigures.mp (h e (List.mem_cons_self ..))
      show ((step s e).1.after rest).config = s.config
      rw [ih (step_sound hs e) fun a ha => h a (List.mem_cons_of_mem _ ha),
        (step_works hs e).config, (s.noted_refused hkept).1]

/-- What was published since the settings came into force belongs to them. -/
theorem State.owned_of_published (hs : s.Sound) (hafter : ∀ a ∈ after, ¬ a.Reconfigures)
    (h : Effect.publish uri ds ∈ s.effects (e :: after)) : (s.after (e :: after)).Owns ds := by
  induction after generalizing e s with
  | nil => exact publish_owned hs (by simpa [effects] using h)
  | cons a rest ih =>
      have hsound := step_sound hs e
      rcases List.mem_append.mp h with hnow | hlater
      · exact (publish_owned hs hnow).of_config (config_after hsound hafter)
      · exact ih hsound (fun b hb => hafter b (List.mem_cons_of_mem _ hb)) hlater

/-! ## Open documents are attended to -/

/-- A document that is pending stays so until something is published for it or a run of it
fails. -/
theorem State.attended (hs : s.Sound)
    (hpending : ∀ d, s.documents.lookup uri = some d → s.Pending uri)
    (hopen : (s.after events).documents.lookup uri = some d) :
    (s.after events).Pending uri ∨ (∃ ds, Effect.publish uri ds ∈ s.effects events) ∨
      s.Failed uri events := by
  induction events generalizing s with
  | nil => exact .inl (hpending d hopen)
  | cons e rest ih =>
      by_cases hgoes : ∀ d, (step s e).1.documents.lookup uri = some d → (step s e).1.Pending uri
      · rcases ih (step_sound hs e) hgoes hopen with hpending | ⟨ds, hds⟩ |
          ⟨before, a, after, rfl, hfails⟩
        · exact .inl hpending
        · exact .inr (.inl ⟨ds, List.mem_append_right _ hds⟩)
        · exact .inr (.inr ⟨e :: before, a, after, rfl, hfails⟩)
      · -- This step ends the waiting.
        simp only [not_forall] at hgoes
        obtain ⟨document, hnow, hnot⟩ := hgoes
        rcases step_attends hs hnow with hpend | ⟨ds, hds⟩ | hfails | ⟨hbefore, -, hidle⟩
        · exact absurd hpend hnot
        · exact .inr (.inl ⟨ds, List.mem_append_left _ hds⟩)
        · exact .inr (.inr ⟨[], e, rest, rfl, hfails⟩)
        · exact absurd (hpending document hbefore) hidle

/-- A run that ends brings no settings. -/
theorem State.FailsFor.not_reconfigures (h : s.FailsFor uri e) : ¬ e.Reconfigures := by
  cases e with
  | finished => exact id
  | opened | changed | saved | closed | configured => exact absurd h id

/-- When settings come into force every open document is attended to. -/
theorem State.attended_of_reconfigures (hs : s.Sound) (he : e.Reconfigures)
    (hopen : (s.after (e :: after)).documents.lookup uri = some d) :
    (s.after (e :: after)).Pending uri ∨
      (∃ ds, Effect.publish uri ds ∈ s.effects (e :: after)) ∨ s.Failed uri (e :: after) := by
  by_cases hnow : ∃ ds, Effect.publish uri ds ∈ (step s e).2
  · obtain ⟨ds, hds⟩ := hnow
    exact .inr (.inl ⟨ds, List.mem_append_left _ hds⟩)
  · have hpending : ∀ d, (step s e).1.documents.lookup uri = some d →
        (step s e).1.Pending uri := by
      intro document hopened
      rcases step_attends hs hopened with hpend | hpublished | hfails | ⟨-, hconfig, -⟩
      · exact hpend
      · exact absurd hpublished hnow
      · exact absurd he hfails.not_reconfigures
      · -- The settings have changed, so this is not a step that changes nothing.
        obtain ⟨profile, haccepted⟩ := Option.ne_none_iff_exists'.mp
          (mt Event.not_reconfigures.mpr (not_not.mpr he))
        rw [(step_works hs e).config, s.noted_accepted haccepted] at hconfig
        have hversion : s.counter + 1 = s.config.version := congrArg ActiveConfig.version hconfig
        have hsame := hs.version
        omega
    rcases State.attended (step_sound hs e) hpending hopen with hpend | ⟨ds, hds⟩ |
      ⟨before, a, rest, rfl, hfails⟩
    · exact .inl hpend
    · exact .inr (.inl ⟨ds, List.mem_append_right _ hds⟩)
    · exact .inr (.inr ⟨e :: before, a, rest, rfl, hfails⟩)

/-- Without a profile no run of a document can fail. -/
theorem State.not_failed_of_no_profile (hs : s.Sound) (he : e.Reconfigures)
    (hafter : ∀ a ∈ after, ¬ a.Reconfigures)
    (hprofile : (s.after (e :: after)).config.profile = none) : ¬ s.Failed uri (e :: after) := by
  rintro ⟨before, a, rest, hsplit, hfails⟩
  cases before with
  | nil =>
      obtain ⟨rfl, -⟩ := List.cons.inj hsplit
      exact hfails.not_reconfigures he
  | cons first before =>
      obtain ⟨rfl, rfl⟩ := List.cons.inj hsplit
      have hsound := step_sound hs e
      have hbefore := State.config_after hsound fun b hb => hafter b (List.mem_append_left _ hb)
      have hend := State.config_after hsound hafter
      cases a with
      | finished id result =>
          obtain ⟨-, r, -, -, -, hfresh⟩ := hfails
          have hnone : ((step s e).1.after before).config.profile = none := by
            rw [hbefore, ← hend]
            exact hprofile
          have hconfig : ((step s e).1.after before).config = ⟨r.version, some r.profile⟩ :=
            hfresh.config
          rw [hconfig] at hnone
          cases hnone
      | opened | changed | saved | closed | configured => exact hfails

/-! ## Diagnostics that outlive their profile -/

/-- Settings came into force last at some event, or never. -/
theorem last_reconfigured (events : List Event) :
    (∀ a ∈ events, ¬ a.Reconfigures) ∨
      ∃ before e after, events = before ++ e :: after ∧ e.Reconfigures ∧
        ∀ a ∈ after, ¬ a.Reconfigures := by
  induction events with
  | nil => exact .inl (by simp)
  | cons e rest ih =>
      rcases ih with hnone | ⟨before, a, after, rfl, ha, hafter⟩
      · by_cases he : e.Reconfigures
        · exact .inr ⟨[], e, rest, rfl, he, hnone⟩
        · exact .inl (List.forall_mem_cons.mpr ⟨he, hnone⟩)
      · exact .inr ⟨e :: before, a, after, rfl, ha, hafter⟩

/-- Stranded diagnostics are shown. -/
theorem History.shown_of_stranded (h : History runtime machine events s sent)
    (hstranded : Stranded runtime machine events uri ds) : lastPublished uri sent = some ds := by
  obtain ⟨before, e, after, t, done, rfl, ht, -, -, honly, hlast⟩ := hstranded
  obtain ⟨-, rfl⟩ := h.since ht
  rw [lastPublished_append, lastPublished_eq_none.mpr honly.unpublished]
  exact hlast

/-- Without a profile none are stranded. -/
theorem History.not_stranded (h : History runtime machine events s sent)
    (hprofile : s.config.profile = none) : ¬ Stranded runtime machine events uri ds := by
  rintro ⟨before, e, after, t, done, rfl, ht, he, hafter, honly, -⟩
  obtain ⟨rfl, -⟩ := h.since ht
  exact State.not_failed_of_no_profile ht.sound he hafter hprofile honly.failed

/-- What is shown for an open document in a quiet state belongs to the profile in force or is
stranded. -/
theorem History.owned_or_stranded (h : History runtime machine events s sent) (hquiet : s.Quiet)
    (hopen : s.documents.lookup uri = some d) (hlast : lastPublished uri sent = some ds) :
    s.Owns ds ∨ Stranded runtime machine events uri ds := by
  rcases last_reconfigured events with hnone | ⟨before, e, after, rfl, he, hafter⟩
  · -- The settings of the start are still in force.
    have hwhole : History runtime machine ([] ++ events) s sent := h
    obtain ⟨rfl, rfl⟩ := hwhole.since .start
    cases events with
    | nil => cases hlast
    | cons e rest =>
        exact .inl (State.owned_of_published (State.sound_initial machine)
          (fun a ha => hnone a (List.mem_cons_of_mem _ ha)) (mem_of_lastPublished hlast))
  · obtain ⟨t, done, ht⟩ := h.split
    obtain ⟨rfl, rfl⟩ := h.since ht
    rw [lastPublished_append] at hlast
    cases hsince : lastPublished uri (t.effects (e :: after)) with
    | some found =>
        rw [hsince] at hlast
        obtain rfl : found = ds := Option.some.inj hlast
        exact .inl (State.owned_of_published ht.sound hafter (mem_of_lastPublished hsince))
    | none =>
        rw [hsince] at hlast
        have hunpublished := lastPublished_eq_none.mp hsince
        rcases State.attended_of_reconfigures ht.sound he hopen with hpending |
          ⟨found, hfound⟩ | hfailed
        · exact absurd hpending (hquiet.not_pending uri)
        · exact absurd hfound (hunpublished found)
        · exact .inr ⟨before, e, after, t, done, rfl, ht, he, hafter, ⟨hfailed, hunpublished⟩,
            hlast⟩

/-- Once nothing goes on, what is shown for an open document belongs to the profile in force,
unless something else is stranded there; and without a profile nothing is shown. -/
theorem owned_iff (h : History runtime machine events s sent) (hquiet : s.Quiet)
    (hopen : s.documents.lookup uri = some d) :
    (s.config.profile = none → ∀ ds, lastPublished uri sent = some ds → ds = []) ∧
      ((∀ ds, lastPublished uri sent = some ds → s.Owns ds) ↔
        ∀ ds, Stranded runtime machine events uri ds → s.Owns ds) := by
  refine ⟨fun hprofile ds hlast => ?_, fun hshown ds hstranded => ?_,
    fun hstranded ds hlast => ?_⟩
  · have howns := (h.owned_or_stranded hquiet hopen hlast).resolve_right (h.not_stranded hprofile)
    exact howns.eq_nil hprofile
  · exact hshown ds (h.shown_of_stranded hstranded)
  · exact (h.owned_or_stranded hquiet hopen hlast).elim id (hstranded ds)

/-! ## A linter that fails after another one -/

/-- Settings that choose another linter. -/
def otherSettings : Value :=
  .obj [("dockerLinter", .obj [("perl", .obj [("container", .str "tools"),
    ("pattern", .str "(x)"), ("lineGroup", .int 1), ("messageGroup", .int 1)])])]

theorem exists_otherProfile :
    ∃ q, State.accepted? otherSettings = some (some q) ∧ q.linter = .perl := by
  have hlinter : ((State.accepted? otherSettings).bind id).map Profile.linter = some .perl := by
    decide +kernel
  obtain ⟨q, hq, hperl⟩ := Option.map_eq_some_iff.mp hlinter
  obtain ⟨profile, haccepted, rfl⟩ := Option.bind_eq_some_iff.mp hq
  exact ⟨q, haccepted, hperl⟩

/-- The state in which a document is validated under the second settings. -/
def secondState (machine : Machine) (q : Profile) (uri text : String) : State :=
  { machine := machine
    documents := [(uri, ⟨0, text⟩)]
    insertions := 1
    config := ⟨2, some q⟩
    counter := 2
    runs := [⟨1, uri, ⟨0, text⟩, 2, q, some ⟨0, 0⟩⟩]
    runsStarted := 2
    batches := [⟨0, 2, ⟨1, [], [(0, uri)], 1, []⟩, .empty⟩]
    batchesStarted := 1 }

/-- What the first linter found is shown, and the second one fails. -/
theorem history_outlived (runtime : Runtime) {p q : Profile} (o : Outcome) (fault : RuntimeFault)
    (hp : State.accepted? shortSettings = some (some p))
    (hq : State.accepted? otherSettings = some (some q)) (ho : o.daemonError = none)
    (hfirst : runtime p "x" (.outcome o)) (hsecond : runtime q "x" (.failed fault)) :
    ∃ sent, History runtime .plain
        [.configured shortSettings, .opened "a.py" "x", .finished 0 (.outcome o),
          .configured otherSettings, .finished 1 (.failed fault)]
        { secondState .plain q "a.py" "x" with runs := [], batches := [] } sent ∧
      lastPublished "a.py" sent =
        some (EditorDiagnostic.ofDiagnostics p.linter.name o.diagnostics) := by
  have hfound := history_found runtime .plain hp "a.py" "x" ho hfirst
  have hconfigured := hfound.step (.configured otherSettings) trivial
  have hstarted : step ((shortState .plain p "a.py" "x").endRun 0) (.configured otherSettings) =
      (secondState .plain q "a.py" "x",
        [.logInfo (State.profileText (some q)),
          .start ⟨1, "a.py", ⟨0, "x"⟩, 2, q, some ⟨0, 0⟩⟩]) := by
    rcases ((shortState .plain p "a.py" "x").endRun 0).configure_cases otherSettings with
      ⟨hnone, -⟩ | ⟨profile, hsome, heq⟩
    · cases hq.symm.trans hnone
    · cases hq.symm.trans hsome
      exact heq
  rw [hstarted] at hconfigured
  have hended := hconfigured.step (.finished 1 (.failed fault)) (by
    intro run hrun _
    rw [List.mem_singleton.mp hrun]
    exact hsecond)
  have hfailed : step (secondState .plain q "a.py" "x") (.finished 1 (.failed fault)) =
      ({ secondState .plain q "a.py" "x" with runs := [], batches := [] },
        [.showError (State.failureText q fault)]) := rfl
  rw [hfailed] at hended
  exact ⟨_, hended, rfl⟩

/-- The diagnostics of the first linter do not belong to the second. -/
theorem not_owns_outlived {p q : Profile} (hp : p.linter = .flake8) (hq : q.linter = .perl) :
    ¬ { secondState .plain q "a.py" "x" with runs := [], batches := [] }.Owns
      (EditorDiagnostic.ofDiagnostics p.linter.name [.wholeLine 2 .error "E9"]) := by
  rintro (hnil | ⟨profile, hprofile, hsource⟩)
  · cases hnil
  · obtain rfl : q = profile := Option.some.inj hprofile
    have hname := hsource _ (List.mem_singleton.mpr rfl)
    rw [hp, hq] at hname
    exact absurd hname (by decide)

/-- What the first linter found is shown though the second one is in force: it failed to run. -/
theorem not_owned_of_failed :
    let found : RunResult := .outcome ⟨[.wholeLine 2 .error "E9"], none, some 1, ""⟩
    let failed : RunResult := .failed (.io "pipe closed")
    ∃ (p q : Profile) (s : State) (sent : List Effect), History (fun _ _ _ => True) .plain
        [.configured shortSettings, .opened "a.py" "x", .finished 0 found,
          .configured otherSettings, .finished 1 failed] s sent ∧
      s.Quiet ∧ s.documents.lookup "a.py" = some ⟨0, "x"⟩ ∧
      s.config.profile = some q ∧ q.linter = .perl ∧ p.linter = .flake8 ∧
      lastPublished "a.py" sent =
        some (EditorDiagnostic.ofDiagnostics p.linter.name [.wholeLine 2 .error "E9"]) ∧
      ¬ s.Owns (EditorDiagnostic.ofDiagnostics p.linter.name [.wholeLine 2 .error "E9"]) := by
  intro found failed
  obtain ⟨p, hp⟩ := exists_shortProfile
  obtain ⟨q, hq, hperl⟩ := exists_otherProfile
  have hflake8 := linter_of_shortSettings hp
  obtain ⟨sent, hended, hlast⟩ := history_outlived (fun _ _ _ => True)
    ⟨[.wholeLine 2 .error "E9"], none, some 1, ""⟩ (.io "pipe closed") hp hq rfl trivial trivial
  exact ⟨p, q, _, sent, hended, ⟨rfl, by simp⟩, rfl, rfl, hperl, hflake8, hlast,
    not_owns_outlived hflake8 hperl⟩

/-- So what the first linter found is stranded there. -/
theorem owned_iff_outlived :
    let found : RunResult := .outcome ⟨[.wholeLine 2 .error "E9"], none, some 1, ""⟩
    let failed : RunResult := .failed (.io "pipe closed")
    let events : List Event :=
      [.configured shortSettings, .opened "a.py" "x", .finished 0 found,
        .configured otherSettings, .finished 1 failed]
    ∃ s sent, History (fun _ _ _ => True) .plain events s sent ∧ s.Quiet ∧
      s.documents.lookup "a.py" = some ⟨0, "x"⟩ ∧
      ∃ ds, Stranded (fun _ _ _ => True) .plain events "a.py" ds ∧ ¬ s.Owns ds := by
  intro found failed events
  obtain ⟨p, hp⟩ := exists_shortProfile
  obtain ⟨q, hq, hperl⟩ := exists_otherProfile
  have hflake8 := linter_of_shortSettings hp
  obtain ⟨sent, hended, hlast⟩ := history_outlived (fun _ _ _ => True)
    ⟨[.wholeLine 2 .error "E9"], none, some 1, ""⟩ (.io "pipe closed") hp hq rfl trivial trivial
  have hquiet : { secondState .plain q "a.py" "x" with runs := [], batches := [] }.Quiet :=
    ⟨rfl, by simp⟩
  refine ⟨_, sent, hended, hquiet, rfl, ?_⟩
  by_contra hnone
  simp only [not_exists, not_and, not_not] at hnone
  exact not_owns_outlived hflake8 hperl ((owned_iff hended hquiet rfl).2.mpr hnone _ hlast)

end ContainerLint.Server
