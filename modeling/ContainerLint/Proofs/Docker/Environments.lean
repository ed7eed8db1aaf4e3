import ContainerLint.Docker.Runtime

/-!
# Docker environments over time

Docker is prepared and used again and again, and programs may answer differently each time.
`Answered` says what one call can come to; from it `environment_history` says, for any calls in
any order, that a run of a linter finds the environment of the last preparation that went well,
and that nothing of one that failed is left behind.
-/

namespace ContainerLint

/-- A call that has to do with docker, and what programs answer while it goes on. -/
inductive DockerCall
  | prepare (launch : Launcher) (options : DockerOptions)
  | exec (launch : Launcher) (profile : Profile) (input : String)

/-- What a call gives back. -/
inductive DockerReply
  | prepared (result : Except RuntimeFault Unit)
  | ran (result : Except RuntimeFault Outcome)

/-- A call that was made, what it gave back, and the programs that it asked for. -/
structure DockerRecord where
  call : DockerCall
  reply : DockerReply
  asked : List Invocation

namespace DockerEnvironment

/-- The variables that a docker machine prints when it is asked for them; none if that fails. -/
def printedExports (launch : Launcher) (name : String) : List (String × String) :=
  match launch.start (machineRequest name) with
  | .error _ => []
  | .ok ended =>
    if ended.status.isSuccess then machineVariables (LineBuffer.decoded ended.stdout) else []

/-- The environment that the user wants: the docker program that is named, with the variables that
the wanted machine prints. -/
def wanted (launch : Launcher) (options : DockerOptions) : DockerEnvironment :=
  ⟨options.dockerPath.getD "docker", (options.machine.map (printedExports launch)).getD []⟩

/-- The wanted machine, if any, prints at least one variable. -/
def MachineAnswers (launch : Launcher) (options : DockerOptions) : Prop :=
  ∀ name, options.machine = some name → printedExports launch name ≠ []

/-- The requests for the variables of the wanted machine. -/
def machineRequests (options : DockerOptions) : List Invocation :=
  (options.machine.map machineRequest).toList

/-- Docker shows in an environment that its daemon answers. -/
def Works (launch : Launcher) (e : DockerEnvironment) : Prop :=
  ∃ ended, launch.start e.probeRequest = .ok ended ∧ ended.status.isSuccess = true

/-- Makes a call. -/
def perform (e : DockerEnvironment) : DockerCall → DockerEnvironment × DockerRecord
  | .prepare launch options =>
    let ((found, result), asked) := e.prepare launch options
    (found, ⟨.prepare launch options, .prepared result, asked⟩)
  | .exec launch profile input =>
    let (result, asked) := e.exec launch profile input
    (e, ⟨.exec launch profile input, .ran result, asked⟩)

/-- Makes calls one after another, and notes each of them. -/
def performAll (e : DockerEnvironment) : List DockerCall → DockerEnvironment × List DockerRecord
  | [] => (e, [])
  | c :: calls =>
    let (next, record) := e.perform c
    let (last, records) := performAll next calls
    (last, record :: records)

/-- What a call can come to in an environment: the environment after it, and the note about it.
Docker is not asked for unless the wanted machine has printed variables, and the environment is
replaced only after docker has shown that the new one works. -/
inductive Answered (e : DockerEnvironment) : DockerEnvironment → DockerRecord → Prop
  | machineFailed {launch : Launcher} {options : DockerOptions} (fault : RuntimeFault)
      (h : ¬ MachineAnswers launch options) :
      Answered e e
        ⟨.prepare launch options, .prepared (.error fault), machineRequests options⟩
  | dockerFailed {launch : Launcher} {options : DockerOptions} (fault : RuntimeFault)
      (h : MachineAnswers launch options) (hprobe : ¬ (wanted launch options).Works launch) :
      Answered e e
        ⟨.prepare launch options, .prepared (.error fault),
          machineRequests options ++ [(wanted launch options).probeRequest]⟩
  | prepared {launch : Launcher} {options : DockerOptions}
      (h : MachineAnswers launch options) (hprobe : (wanted launch options).Works launch) :
      Answered e (wanted launch options)
        ⟨.prepare launch options, .prepared (.ok ()),
          machineRequests options ++ [(wanted launch options).probeRequest]⟩
  | ran {launch : Launcher} {profile : Profile} {input : String}
      (result : Except RuntimeFault Outcome) :
      Answered e e
        ⟨.exec launch profile input, .ran result, [e.execRequest profile input]⟩

/-! ## One call -/

/-- The variables of a machine are found exactly if it prints any. -/
theorem machineAnswer_cases (launch : Launcher) (name : String) :
    (∃ fault, machineAnswer name (launch.start (machineRequest name)) = .error fault ∧
      printedExports launch name = []) ∨
    machineAnswer name (launch.start (machineRequest name)) = .ok (printedExports launch name) ∧
      printedExports launch name ≠ [] := by
  rw [printedExports]
  cases launch.start (machineRequest name) with
  | error fault => exact .inl ⟨_, rfl, rfl⟩
  | ok ended =>
      cases hstatus : ended.status.isSuccess with
      | false =>
          simp only [machineAnswer, hstatus, Bool.false_eq_true, if_false]
          exact .inl ⟨_, rfl, trivial⟩
      | true =>
          simp only [machineAnswer, hstatus, if_true]
          cases machineVariables (LineBuffer.decoded ended.stdout) with
          | nil => exact .inl ⟨_, rfl, rfl⟩
          | cons v vs => exact .inr ⟨rfl, List.cons_ne_nil _ _⟩

/-- The wanted variables are found exactly if the wanted machine, if any, prints some. -/
theorem findVariables_cases (launch : Launcher) (options : DockerOptions) :
    (∃ fault, findVariables launch options.machine = (.error fault, machineRequests options) ∧
      ¬ MachineAnswers launch options) ∨
    findVariables launch options.machine =
        (.ok (wanted launch options).exports, machineRequests options) ∧
      MachineAnswers launch options := by
  rw [MachineAnswers, wanted, machineRequests]
  cases options.machine with
  | none => exact .inr ⟨rfl, fun name h => by cases h⟩
  | some name =>
      rcases machineAnswer_cases launch name with ⟨fault, hanswer, hnone⟩ | ⟨hanswer, hsome⟩
      · exact .inl ⟨fault, by rw [findVariables, hanswer]; rfl, fun h => h name rfl hnone⟩
      · refine .inr ⟨by rw [findVariables, hanswer]; rfl, ?_⟩
        rintro _ ⟨⟩
        exact hsome

/-- Docker answers exactly if the environment works. -/
theorem probeAnswer_cases (launch : Launcher) (e : DockerEnvironment) :
    (∃ fault, probeAnswer e.program (launch.start e.probeRequest) = .error fault ∧
      ¬ e.Works launch) ∨
    probeAnswer e.program (launch.start e.probeRequest) = .ok () ∧ e.Works launch := by
  rw [Works]
  cases launch.start e.probeRequest with
  | error fault =>
      refine .inl ⟨_, rfl, ?_⟩
      rintro ⟨_, ⟨⟩, -⟩
  | ok ended =>
      cases hstatus : ended.status.isSuccess with
      | false =>
          refine .inl ⟨_, by rw [probeAnswer, hstatus]; rfl, ?_⟩
          rintro ⟨_, ⟨⟩, hsuccess⟩
          exact Bool.false_ne_true (hstatus.symm.trans hsuccess)
      | true => exact .inr ⟨by rw [probeAnswer, hstatus, if_pos rfl], ended, rfl, hstatus⟩

/-- With the variables at hand, docker is asked whether it works with them. -/
theorem find_eq (hfind : findVariables launch options.machine =
    (.ok (wanted launch options).exports, machineRequests options)) :
    find launch options =
      ((probeAnswer (wanted launch options).program
          (launch.start (wanted launch options).probeRequest)).map fun _ => wanted launch options,
        machineRequests options ++ [(wanted launch options).probeRequest]) := by
  rw [find, hfind]
  rfl

/-- Every call comes to what a call can come to. -/
theorem perform_answered (e : DockerEnvironment) (c : DockerCall) :
    Answered e (e.perform c).1 (e.perform c).2 := by
  cases c with
  | exec launch profile input => exact .ran _
  | prepare launch options =>
      rw [perform, prepare]
      rcases findVariables_cases launch options with ⟨fault, hfind, hmachine⟩ | ⟨hfind, hmachine⟩
      · rw [find, hfind]
        exact .machineFailed fault hmachine
      · rw [find_eq hfind]
        rcases probeAnswer_cases launch (wanted launch options) with
          ⟨fault, hprobe, hdead⟩ | ⟨hprobe, hworks⟩
        · rw [hprobe]
          exact .dockerFailed fault hmachine hdead
        · rw [hprobe]
          exact .prepared hmachine hworks

theorem perform_call (e : DockerEnvironment) (c : DockerCall) : (e.perform c).2.call = c := by
  cases c <;> rfl

/-! ## Any calls -/

/-- The environment that a call has prepared, if it went well. -/
def prepared? : DockerRecord → Option DockerEnvironment
  | ⟨.prepare launch options, .prepared (.ok ()), _⟩ => some (wanted launch options)
  | _ => none

/-- The environment that was prepared last, if any was. -/
def lastPrepared? (records : List DockerRecord) : Option DockerEnvironment :=
  (records.filterMap prepared?).getLast?

/-- A call leaves the environment that it has prepared, or else the one that it found. -/
theorem Answered.next_eq {next : DockerEnvironment} {record : DockerRecord}
    (h : Answered e next record) : next = (prepared? record).getD e := by
  cases h <;> rfl

theorem lastPrepared?_cons (record : DockerRecord) (records : List DockerRecord) :
    lastPrepared? (record :: records) = (lastPrepared? records).or (prepared? record) := by
  rw [lastPrepared?, lastPrepared?, List.filterMap_cons]
  cases prepared? record with
  | none => rw [Option.or_none]
  | some found =>
      rw [List.getLast?_cons]
      cases (records.filterMap prepared?).getLast? <;> rfl

/-- Calls leave the environment that was prepared last, or else the one that they found. -/
theorem performAll_next (e : DockerEnvironment) (calls : List DockerCall) :
    (e.performAll calls).1 = (lastPrepared? (e.performAll calls).2).getD e := by
  induction calls generalizing e with
  | nil => rfl
  | cons c calls ih =>
      have hnext := (perform_answered e c).next_eq
      rw [performAll, lastPrepared?_cons, Option.getD_or, ← hnext]
      exact ih _

theorem performAll_concat (e : DockerEnvironment) (calls : List DockerCall) (c : DockerCall) :
    e.performAll (calls ++ [c]) =
      (((e.performAll calls).1.perform c).1,
        (e.performAll calls).2 ++ [((e.performAll calls).1.perform c).2]) := by
  induction calls generalizing e with
  | nil => rfl
  | cons d calls ih => simp only [List.cons_append, performAll, ih]

/-- What a preparation can come to. -/
theorem Answered.of_prepare {next : DockerEnvironment} {record : DockerRecord}
    (h : Answered e next record) (hcall : record.call = .prepare launch options) :
    (record.reply = .prepared (.ok ()) ∧ next = wanted launch options ∨
      ∃ fault, record.reply = .prepared (.error fault) ∧ next = e) ∧
    (record.reply = .prepared (.ok ()) ↔
      MachineAnswers launch options ∧ (wanted launch options).Works launch) ∧
    (¬ MachineAnswers launch options → record.asked = machineRequests options) ∧
    (MachineAnswers launch options →
      record.asked = machineRequests options ++ [(wanted launch options).probeRequest]) := by
  cases h with
  | machineFailed fault h =>
      cases hcall
      exact ⟨.inr ⟨fault, rfl, rfl⟩, iff_of_false (by rintro ⟨⟩) fun hworks => h hworks.1,
        fun _ => rfl, fun hmachine => absurd hmachine h⟩
  | dockerFailed fault h hprobe =>
      cases hcall
      exact ⟨.inr ⟨fault, rfl, rfl⟩, iff_of_false (by rintro ⟨⟩) fun hworks => hprobe hworks.2,
        absurd h, fun _ => rfl⟩
  | prepared h hprobe =>
      cases hcall
      exact ⟨.inl ⟨rfl, rfl⟩, iff_of_true rfl ⟨h, hprobe⟩, absurd h, fun _ => rfl⟩
  | ran => cases hcall

/-- Whatever calls were made before, the environment is the one that the last preparation which
went well has put in place, or plain docker without variables. A run of a linter asks for the
program of this environment, with its variables, to run the command in the container. A
preparation asks for docker only once the wanted machine has printed variables, and then as it
would be put in place; if it fails, for whatever reason, the environment stays as it was. -/
theorem environment_history (calls : List DockerCall) (c : DockerCall) :
    let e := (initial.performAll calls).1
    let next := (initial.performAll (calls ++ [c])).1
    ∃ record, (initial.performAll (calls ++ [c])).2 = (initial.performAll calls).2 ++ [record] ∧
      record.call = c ∧
      e = (lastPrepared? (initial.performAll calls).2).getD ⟨"docker", []⟩ ∧
      (∀ launch profile input, c = .exec launch profile input →
        record.asked = [⟨e.program, "exec" :: "-i" :: profile.container :: profile.command,
          e.exports, some input⟩] ∧ next = e) ∧
      ∀ launch options, c = .prepare launch options →
        (record.reply = .prepared (.ok ()) ∧ next = wanted launch options ∨
          ∃ fault, record.reply = .prepared (.error fault) ∧ next = e) ∧
        (record.reply = .prepared (.ok ()) ↔
          MachineAnswers launch options ∧ (wanted launch options).Works launch) ∧
        (¬ MachineAnswers launch options → record.asked = machineRequests options) ∧
        (MachineAnswers launch options →
          record.asked = machineRequests options ++ [(wanted launch options).probeRequest]) := by
  intro e next
  have hconcat := performAll_concat initial calls c
  have hnext : next = (e.perform c).1 := congrArg Prod.fst hconcat
  refine ⟨(e.perform c).2, congrArg Prod.snd hconcat, perform_call e c,
    performAll_next initial calls, ?_, ?_⟩
  · rintro launch profile input rfl
    exact ⟨rfl, hnext⟩
  · rintro launch options rfl
    rw [hnext]
    exact (perform_answered e _).of_prepare (perform_call e _)

end DockerEnvironment

end ContainerLint
