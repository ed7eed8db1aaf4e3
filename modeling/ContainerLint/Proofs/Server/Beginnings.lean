import ContainerLint.Proofs.Server.History
import ContainerLint.Server.Host

/-!
# How sessions begin

A `Conversation` is a session as it goes on: messages come, docker gets prepared for the requests
that asked for it, or cannot be, and runs end, in whatever order. Until docker was prepared for a
request to begin whose options could be read, nothing is done and the state is as it was at first;
a request to begin that fails is answered with why and changes nothing
(`nothing_before_begun`). What a session does under a host is such a conversation
(`Conversation.serve`).
-/

namespace ContainerLint.Server

/-- What can happen in a session: a message comes, docker was prepared for a request to begin or
could not be, or a run ends. -/
inductive Happening
  | message (m : Message)
  | prepared (id : RequestId) (options : DockerOptions) (outcome : Except RuntimeFault Unit)
  | finished (run : Nat) (result : RunResult)

/-- The message is a request to begin a session, and its options can be read. -/
def Message.Begins (m : Message) (id : RequestId) (options : DockerOptions) : Prop :=
  m.method = "initialize" ∧ m.id = some id ∧
    ∃ params data, m.params = some params ∧ Params.start params = .ok data ∧
      Params.options data = .ok options

namespace Session

/-- The request for which a message has docker prepared, with the options for it. -/
def asked (s : Session) (m : Message) : Option (RequestId × DockerOptions) :=
  match (s.receive m).2 with
  | .prepare id options => some (id, options)
  | _ => none

/-- The session after something happened, with what came of it. A request for which docker is
still being prepared has no answer yet. -/
def next (s : Session) : Happening → Session × Served
  | .message m =>
    match s.receive m with
    | (s, .answered reply) => (s, ⟨reply, []⟩)
    | (s, .prepare _ _) => (s, ⟨none, []⟩)
    | (s, .greet) => (s, ⟨none, [.logInfo greetingText]⟩)
    | (s, .happens event) =>
      let (state, done) := step s.state event
      ({ s with state }, ⟨none, done⟩)
  | .prepared id _ outcome =>
    let (s, reply) := s.prepared id outcome
    (s, ⟨some reply, []⟩)
  | .finished run result =>
    let (state, done) := step s.state (.finished run result)
    ({ s with state }, ⟨none, done⟩)

/-- How the requests for which docker is being prepared change: a message may add one, and one is
taken away when docker was prepared for it or could not be. -/
inductive Passes (s : Session) :
    List (RequestId × DockerOptions) → Happening → List (RequestId × DockerOptions) → Prop
  | message {waiting : List (RequestId × DockerOptions)} (m : Message) :
      Passes s waiting (.message m) (waiting ++ (s.asked m).toList)
  | prepared {before after : List (RequestId × DockerOptions)} (id : RequestId)
      (options : DockerOptions) (outcome : Except RuntimeFault Unit) :
      Passes s (before ++ (id, options) :: after) (.prepared id options outcome) (before ++ after)
  | finished {waiting : List (RequestId × DockerOptions)} (run : Nat) (result : RunResult) :
      Passes s waiting (.finished run result) waiting

/-- The only request for which docker is being prepared is taken away. -/
theorem Passes.only {s : Session} (id : RequestId) (options : DockerOptions)
    (outcome : Except RuntimeFault Unit) :
    s.Passes [(id, options)] (.prepared id options outcome) [] :=
  @Passes.prepared s [] [] id options outcome

end Session

/-- What happened since the start, the session after it, the requests for which docker is being
prepared, and what came of each happening. Messages may come while docker is being prepared, and
it may be prepared for several requests at a time. -/
inductive Conversation (machine : Machine) :
    List Happening → Session → List (RequestId × DockerOptions) → List Served → Prop
  | start : Conversation machine [] ⟨.fresh, .initial machine⟩ [] []
  | step {past : List Happening} {s : Session} {waiting still : List (RequestId × DockerOptions)}
      {served : List Served} (e : Happening) (h : Conversation machine past s waiting served)
      (hpasses : s.Passes waiting e still) :
      Conversation machine (past ++ [e]) (s.next e).1 still (served ++ [(s.next e).2])

/-- At some time docker was prepared for a request to begin that had come before, with the options
that were read from it. -/
def Begun (past : List Happening) : Prop :=
  ∃ before after m id options, past = before ++ .prepared id options (.ok ()) :: after ∧
    .message m ∈ before ∧ m.Begins id options

/-! ## What a message can ask for -/

namespace Session

variable {s : Session} {m : Message} {id : RequestId} {options : DockerOptions}

theorem receiveStart_of_begins (h : m.Begins id options) :
    receiveStart m = .prepare id options := by
  obtain ⟨-, hid, params, data, hparams, hstart, hoptions⟩ := h
  simp only [receiveStart, hid, hparams, hstart, hoptions]

theorem begins_of_receiveStart (hmethod : m.method = "initialize")
    (h : receiveStart m = .prepare id options) : m.Begins id options := by
  unfold receiveStart at h
  split at h
  · cases h
  · cases h
  · rename_i params hid hparams
    split at h
    · cases h
    · rename_i data hstart
      split at h
      · cases h
      · rename_i hoptions
        cases h
        exact ⟨hmethod, hid, params, data, hparams, hstart, hoptions⟩

/-- A request to begin has docker prepared, or is told what is wrong with its parameters. -/
theorem receiveStart_cases (hid : m.id = some id) :
    (∃ options, receiveStart m = .prepare id options) ∨
      ∃ reason, receiveStart m = .answered (some ⟨id, .error (.invalidParams reason)⟩) := by
  unfold receiveStart answer
  simp only [hid, Option.map_some]
  split
  · rename_i heq
    cases heq
  · exact .inr ⟨_, rfl⟩
  · rename_i heq _
    cases heq
    split
    · exact .inr ⟨_, rfl⟩
    · split
      · exact .inr ⟨_, rfl⟩
      · exact .inl ⟨_, rfl⟩

/-- What a notification asks for is what its parameters were read as, if it asks for anything. -/
theorem receiveNotification_cases (m : Message) (read : Value → Decoded Intake) :
    receiveNotification m read = .answered none ∨
      ∃ params, read params = .ok (receiveNotification m read) := by
  unfold receiveNotification
  split
  · rename_i params _ _
    split
    · rename_i intake hread
      exact .inr ⟨params, hread⟩
    · exact .inl rfl
  · exact .inl rfl

/-- A message that counts while a session goes on has no docker prepared. -/
theorem not_prepare_of_receiveReady {intake : Intake} (h : receiveReady m = some intake) :
    intake ≠ .prepare id options := by
  have hnotification : ∀ {α : Type} (read : Value → Decoded α) (f : α → Intake),
      (∀ a, f a ≠ .prepare id options) →
        receiveNotification m (fun v => (read v).map f) ≠ .prepare id options := by
    intro α read f hf
    rcases receiveNotification_cases m fun v => (read v).map f with heq | ⟨params, heq⟩
    · rw [heq]
      nofun
    · cases hread : read params with
      | error fault => rw [hread] at heq; cases heq
      | ok a => rw [hread] at heq; exact Except.ok.inj heq ▸ hf a
  unfold receiveReady at h
  split at h
  · exact Option.some.inj h ▸ hnotification _ _ nofun
  · split_ifs at h
    · exact Option.some.inj h ▸ hnotification _ _ nofun
    · exact Option.some.inj h ▸ nofun
    · rw [← Option.some.inj h]
      unfold receiveUnserved answer
      split <;> nofun

/-- What can come of a message: it may be no more than answered, which ends the session in two
cases; it may be a request to begin that comes in time; or it counts as the session goes on. -/
inductive Received (s : Session) (m : Message) : Session × Intake → Prop
  | answered (reply : Option Reply) : Received s m (s, .answered reply)
  | begins (hfresh : s.phase = .fresh) (hmethod : m.method = "initialize") :
      Received s m (s, receiveStart m)
  | shutDown (hready : s.phase = .ready) (reply : Option Reply) :
      Received s m ({ s with phase := .shutDown }, .answered reply)
  | exited : Received s m ({ s with phase := .exited }, .answered none)
  | ready (hready : s.phase = .ready) (intake : Intake) (h : receiveReady m = some intake) :
      Received s m (s, intake)

theorem receive_received (s : Session) (m : Message) : s.Received m (s.receive m) := by
  unfold receive
  by_cases hexited : s.phase = .exited
  · rw [if_pos hexited]
    exact .answered none
  rw [if_neg hexited]
  by_cases hexit : m.method = "exit"
  · rw [if_pos hexit]
    exact .exited
  rw [if_neg hexit]
  by_cases hmethod : m.method = "initialize"
  · rw [if_pos hmethod]
    split
    · rename_i hfresh
      exact .begins hfresh hmethod
    · exact .answered _
  rw [if_neg hmethod]
  split
  · split
    · rename_i hready
      unfold receiveEnd
      split
      · exact .shutDown hready _
      · exact .shutDown hready _
    · exact .answered _
  · split
    · unfold receiveUnknown
      split
      · exact .answered _
      · exact .answered _
    · rename_i intake hsome
      split
      · rename_i hready
        exact .ready hready intake hsome
      · exact .answered _

/-- Docker is prepared only for a request to begin whose options can be read, and only before the
session has begun. -/
theorem begins_of_asked (h : s.asked m = some (id, options)) :
    s.phase = .fresh ∧ m.Begins id options := by
  have hintake : (s.receive m).2 = .prepare id options := by
    unfold asked at h
    split at h
    · rename_i heq
      cases h
      exact heq
    · cases h
  have hreceived := s.receive_received m
  generalize s.receive m = received at hreceived hintake
  cases hreceived with
  | answered | shutDown | exited => cases hintake
  | begins hfresh hmethod => exact ⟨hfresh, begins_of_receiveStart hmethod hintake⟩
  | ready _ intake hsome => exact absurd hintake (not_prepare_of_receiveReady hsome)

/-- In a session that has not begun, or was left, a message is only answered, if it does not have
docker prepared. -/
theorem next_message_of_unready (hphase : s.phase ≠ .ready) (m : Message) :
    (s.next (.message m)).1.phase ≠ .ready ∧ (s.next (.message m)).1.state = s.state ∧
      (s.next (.message m)).2.effects = [] := by
  have hreceived := s.receive_received m
  unfold next
  dsimp only
  generalize s.receive m = received at hreceived
  cases hreceived with
  | answered reply => exact ⟨hphase, rfl, rfl⟩
  | exited => exact ⟨nofun, rfl, rfl⟩
  | begins hfresh hmethod =>
      cases hid : m.id with
      | none => simp [receiveStart, hid, hphase]
      | some id =>
          rcases receiveStart_cases hid with ⟨_, heq⟩ | ⟨_, heq⟩
          · simp [heq, hphase]
          · simp [heq, hphase]
  | shutDown hready | ready hready => exact absurd hready hphase

/-- In a session that has not begun, or was left, nothing is done, and only docker that was
prepared makes it ready. -/
theorem next_of_unready (hphase : s.phase ≠ .ready) (hruns : s.state.runs = []) (e : Happening) :
    (s.next e).1.state = s.state ∧ (s.next e).2.effects = [] ∧
      ((s.next e).1.phase = .ready → ∃ id options, e = .prepared id options (.ok ())) := by
  cases e with
  | message m =>
      obtain ⟨hkept, hstate, hquiet⟩ := s.next_message_of_unready hphase m
      exact ⟨hstate, hquiet, fun hready => absurd hready hkept⟩
  | prepared id options outcome =>
      cases outcome with
      | ok => exact ⟨rfl, rfl, fun _ => ⟨id, options, rfl⟩⟩
      | error fault => exact ⟨rfl, rfl, fun hready => absurd hready hphase⟩
  | finished run result =>
      have hstep : Server.step s.state (.finished run result) = (s.state, []) := by
        simp [Server.step, State.finish, hruns]
      rw [next, hstep]
      exact ⟨rfl, rfl, fun hready => absurd hready hphase⟩

/-- A request to begin is served in time and with options that can be read, or it is told why not
and changes nothing; docker is not prepared for it then. -/
theorem next_begin (hid : m.id = some id) (hmethod : m.method = "initialize")
    (hleft : s.phase ≠ .exited) :
    (∃ options, s.phase = .fresh ∧ m.Begins id options ∧ s.asked m = some (id, options) ∧
        s.next (.message m) = (s, ⟨none, []⟩)) ∨
      ((s.phase = .fresh → ∀ options, ¬ m.Begins id options) ∧ s.asked m = none ∧
        ∃ refusal, s.next (.message m) = (s, ⟨some ⟨id, .error refusal⟩, []⟩)) := by
  have hexit : m.method ≠ "exit" := by simp [hmethod]
  by_cases hfresh : s.phase = .fresh
  · have hreceive : s.receive m = (s, receiveStart m) := by
      rw [receive, if_neg hleft, if_neg hexit, if_pos hmethod, if_pos hfresh]
    rcases receiveStart_cases hid with ⟨options, heq⟩ | ⟨reason, heq⟩
    · exact .inl ⟨options, hfresh, begins_of_receiveStart hmethod heq,
        by simp only [asked, hreceive, heq], by simp only [next, hreceive, heq]⟩
    · refine .inr ⟨fun _ options hbegins => ?_, by simp only [asked, hreceive, heq],
        .invalidParams reason, by simp only [next, hreceive, heq]⟩
      cases heq.symm.trans (receiveStart_of_begins hbegins)
  · have hreceive : s.receive m = (s, .answered (some ⟨id, .error .invalidRequest⟩)) := by
      rw [receive, if_neg hleft, if_neg hexit, if_pos hmethod, if_neg hfresh, answer, hid]
      rfl
    exact .inr ⟨fun h => absurd h hfresh, by simp only [asked, hreceive], .invalidRequest,
      by simp only [next, hreceive]⟩

end Session

/-! ## Before a session has begun -/

variable {machine : Machine} {past : List Happening} {s : Session}
  {waiting : List (RequestId × DockerOptions)} {served : List Served}

theorem Begun.append (h : Begun past) (more : List Happening) : Begun (past ++ more) := by
  obtain ⟨before, after, m, id, options, rfl, hm, hbegins⟩ := h
  exact ⟨before, after ++ more, m, id, options, by simp, hm, hbegins⟩

/-- Docker is being prepared only for requests to begin that came, with the options that were read
from them. -/
theorem Conversation.begins_of_waiting (h : Conversation machine past s waiting served)
    {id : RequestId} {options : DockerOptions} (hwaiting : (id, options) ∈ waiting) :
    ∃ m, .message m ∈ past ∧ m.Begins id options := by
  induction h with
  | start => cases hwaiting
  | @step past s waiting still served e h hpasses ih =>
      have hnew : (id, options) ∈ waiting ∨ ∃ m, e = .message m ∧ m.Begins id options := by
        cases hpasses with
        | message m =>
            refine (List.mem_append.mp hwaiting).imp_right fun hasked => ⟨m, rfl, ?_⟩
            exact (Session.begins_of_asked (Option.mem_toList.mp hasked)).2
        | prepared _ _ _ =>
            rcases List.mem_append.mp hwaiting with hold | hold <;> simp [hold]
        | finished _ _ => exact .inl hwaiting
      rcases hnew with hold | ⟨m, rfl, hbegins⟩
      · obtain ⟨m, hm, hbegins⟩ := ih hold
        exact ⟨m, List.mem_append_left _ hm, hbegins⟩
      · exact ⟨m, by simp, hbegins⟩

/-- As long as a session has not begun, it is not ready and its state is the first one. -/
theorem Conversation.unready (h : Conversation machine past s waiting served)
    (hbegun : ¬ Begun past) : s.phase ≠ .ready ∧ s.state = .initial machine := by
  induction h with
  | start => exact ⟨nofun, rfl⟩
  | @step past s waiting still served e h hpasses ih =>
      obtain ⟨hphase, hstate⟩ := ih fun hb => hbegun (hb.append _)
      obtain ⟨hkept, -, hready⟩ := Session.next_of_unready hphase (by rw [hstate]; rfl) e
      refine ⟨fun h' => ?_, hkept.trans hstate⟩
      -- Docker was prepared for a request that had come: this is how a session begins.
      obtain ⟨id, options, rfl⟩ := hready h'
      cases hpasses with
      | @prepared before after =>
          obtain ⟨m, hm, hbegins⟩ := h.begins_of_waiting
            (List.mem_append_right before List.mem_cons_self)
          exact hbegun ⟨past, [], m, id, options, rfl, hm, hbegins⟩

theorem Conversation.length_served (h : Conversation machine past s waiting served) :
    served.length = past.length := by
  induction h with
  | start => rfl
  | step e h hpasses ih => simp [ih]

/-- If anything was done, then the session had begun before. -/
theorem Conversation.begun_of_effects (h : Conversation machine past s waiting served) {i : Nat}
    {x : Served} (hx : served[i]? = some x) (heffects : x.effects ≠ []) :
    Begun (past.take i) := by
  induction h with
  | start => cases hx
  | @step past s waiting still served e h hpasses ih =>
      have hlength := h.length_served
      rcases Nat.lt_or_ge i served.length with hlt | hge
      · rw [List.getElem?_append_left hlt] at hx
        rw [List.take_append_of_le_length (by omega)]
        exact ih hx
      · rw [List.getElem?_append_right hge, List.getElem?_singleton] at hx
        split at hx
        · have hi : i = past.length := by omega
          rw [hi, List.take_left]
          by_contra hbegun
          obtain ⟨hphase, hstate⟩ := h.unready hbegun
          have hquiet := (Session.next_of_unready hphase (by rw [hstate]; rfl) e).2.1
          exact heffects (Option.some.inj hx ▸ hquiet)
        · cases hx

/-- Nothing is done, no run is started, no document is kept and no settings come into force before
docker was prepared for a request to begin whose options could be read. Docker is prepared only
for such requests. A request whose options cannot be read, or that comes when a session has begun,
is refused, and so is one for which docker cannot be prepared; this leaves everything as it
was. -/
theorem nothing_before_begun (h : Conversation machine past s waiting served) :
    (∀ i x, served[i]? = some x → x.effects ≠ [] → Begun (past.take i)) ∧
      (s.state ≠ .initial machine → Begun past) ∧
      (∀ id options, (id, options) ∈ waiting → ∃ m, .message m ∈ past ∧ m.Begins id options) ∧
      (∀ m id, m.method = "initialize" → m.id = some id → s.phase ≠ .exited →
        (∃ options, s.phase = .fresh ∧ m.Begins id options ∧ s.asked m = some (id, options) ∧
            s.next (.message m) = (s, ⟨none, []⟩)) ∨
          ((s.phase = .fresh → ∀ options, ¬ m.Begins id options) ∧ s.asked m = none ∧
            ∃ refusal, s.next (.message m) = (s, ⟨some ⟨id, .error refusal⟩, []⟩))) ∧
      ∀ id options fault, s.next (.prepared id options (.error fault)) =
        (s, ⟨some ⟨id, .error (.notPrepared fault)⟩, []⟩) := by
  refine ⟨fun _ _ => h.begun_of_effects, fun hstate => ?_, fun _ _ => h.begins_of_waiting,
    fun _ _ hmethod hid hleft => Session.next_begin hid hmethod hleft, fun _ _ _ => rfl⟩
  by_contra hbegun
  exact hstate (h.unready hbegun).2

/-- A request to begin with options that are no options. -/
def unreadableStart : Message :=
  ⟨"initialize", some (.obj [("capabilities", .obj []), ("initializationOptions", .int 3)]),
    some (.number 1)⟩

/-- A request to begin without options. -/
def plainStart : Message :=
  ⟨"initialize", some (.obj [("capabilities", .obj [])]), some (.number 2)⟩

/-- The notification that a document was opened. -/
def opening : Message :=
  ⟨"textDocument/didOpen", some (.obj [("textDocument", .obj [("uri", .str "file:///a.py"),
    ("languageId", .str "python"), ("version", .int 1), ("text", .str "x")])]), none⟩

/-- A beginning that is refused, another one for which docker cannot be prepared, with a document
that is opened too early; then a beginning that succeeds, and the document once more. -/
def retried : List Happening :=
  [.message unreadableStart, .message plainStart, .message opening,
    .prepared (.number 2) .none (.error (.environment "no machine")), .message plainStart,
    .prepared (.number 2) .none (.ok ()), .message opening]

/-- What comes of it: only the last document is validated. -/
theorem nothing_before_begun_retried :
    ∃ s served, Conversation .plain retried s [] served ∧
      (served.map Served.effects).take 6 = [[], [], [], [], [], []] ∧
      (served[6]?.map Served.effects) = some [.publish "file:///a.py" []] ∧
      Begun (retried.take 6) := by
  have hstart : Conversation .plain [] ⟨.fresh, .initial .plain⟩ [] [] := .start
  have hrefused := hstart.step _ (.message unreadableStart)
  have hasked := hrefused.step _ (.message plainStart)
  have hearly := hasked.step _ (.message opening)
  have hfailed := hearly.step _ (.only (.number 2) .none (.error (.environment "no machine")))
  have hagain := hfailed.step _ (.message plainStart)
  have hbegun := hagain.step _ (.only (.number 2) .none (.ok ()))
  have hopened := hbegun.step _ (.message opening)
  exact ⟨_, _, hopened, rfl, rfl, (nothing_before_begun hopened).1 6 _ rfl (by nofun)⟩

/-! ## Sessions under a host -/

/-- The runs that can end are ended in a conversation. -/
theorem Conversation.settleWithin (result? : Run → Option RunResult) {phase : Phase} {t : State}
    (h : Conversation machine past ⟨phase, t⟩ waiting served) (fuel : Nat) :
    ∃ ends done, Conversation machine (past ++ ends) ⟨phase, (t.settleWithin result? fuel).1⟩
        waiting (served ++ done) ∧
      (∀ e ∈ ends, ∃ run result, e = .finished run result) ∧
      done.filterMap Served.reply = [] ∧
      done.flatMap Served.effects = (t.settleWithin result? fuel).2 := by
  induction fuel generalizing past t served with
  | zero => exact ⟨[], [], by simpa [State.settleWithin] using h, by simp, rfl, rfl⟩
  | succ fuel ih =>
      cases hready : t.ready? result? with
      | none => exact ⟨[], [], by simpa [State.settleWithin, hready] using h, by simp, rfl,
          by simp [State.settleWithin, hready]⟩
      | some end' =>
          obtain ⟨run, result⟩ := end'
          have hended : Conversation machine (past ++ [.finished run result])
              ⟨phase, (Server.step t (.finished run result)).1⟩ waiting
              (served ++ [⟨none, (Server.step t (.finished run result)).2⟩]) :=
            h.step _ (.finished run result)
          obtain ⟨ends, done, hrest, hends, hreplies, heffects⟩ := ih hended
          simp only [List.append_assoc, List.singleton_append] at hrest
          simp only [State.settleWithin, hready]
          refine ⟨_, _, hrest, ?_, hreplies, by rw [List.flatMap_cons, heffects]⟩
          rintro e (_ | ⟨_, he⟩)
          · exact ⟨run, result, rfl⟩
          · exact hends e he

/-- What a session does about a message under a host is a conversation that goes on: the message
comes, docker is prepared as the host does it, and runs end. -/
theorem Conversation.serve {σ : Type} (host : Host σ) (x : σ)
    (h : Conversation machine past s [] served) (m : Message) :
    ∃ more done, Conversation machine (past ++ .message m :: more) (s.serve host x m).1.1 []
        (served ++ done) ∧
      (∀ e ∈ more, (∃ id options, e = .prepared id options (host.prepare x options).2) ∨
        ∃ run result, e = .finished run result) ∧
      done.filterMap Served.reply = (s.serve host x m).2.reply.toList ∧
      done.flatMap Served.effects = (s.serve host x m).2.effects := by
  have hnext := h.step _ (.message m)
  rcases hreceive : s.receive m with ⟨t, reply | ⟨id, options⟩ | _ | event⟩ <;>
    simp only [Session.next, Session.asked, Session.serve, hreceive] at hnext ⊢
  · exact ⟨[], _, hnext, by simp, by cases reply <;> rfl, rfl⟩
  · have hprepared := hnext.step _ (.only id options (host.prepare x options).2)
    simp only [List.append_assoc, List.singleton_append] at hprepared
    exact ⟨_, _, hprepared, by simp, rfl, rfl⟩
  · exact ⟨[], _, hnext, by simp, rfl, rfl⟩
  · obtain ⟨ends, done, hrest, hends, hreplies, heffects⟩ :=
      hnext.settleWithin (host.result? x) (Server.step t.state event).1.outstanding
    simp only [List.append_assoc, List.singleton_append] at hrest
    exact ⟨ends, _, hrest, fun e he => .inr (hends e he), hreplies,
      by rw [List.flatMap_cons, heffects]; rfl⟩

end ContainerLint.Server
