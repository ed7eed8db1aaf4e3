import ContainerLint.CommandLine.Report
import ContainerLint.Proofs.Run.Outcomes
import ContainerLint.Proofs.Server.Freshness
import ContainerLint.Proofs.Text.Figures
import Mathlib.Data.List.Forall2

/-!
# Lines and columns

A match names a line and a column if its groups for them hold numbers of 32 bits
(`Extractor.Names`). The diagnostic of the match, the range in an editor and the report show these
numbers and no others (`Diagnostic.Shows`), from column zero and line one up to the largest
numbers there are. `positions_survive` says so of every match in a text, and that no range that
the server publishes ends before it starts.
-/

namespace ContainerLint

open CommandLine (place reportLine renderText painted severityStyle bracketed)

/-! ## What a match names -/

namespace Extractor

/-- The group of the match holds a number. -/
def Captured (m : Match) (index : UInt64) (n : Nat) : Prop :=
  ∃ text, group m index = some text ∧ Text.Denotes text.toList n

/-- The line and the column that a match names. A group names none if it has no part in the match,
if it holds no number, or if the number is too large; nor is there a line zero. -/
structure Names (e : Extractor) (m : Match) (line column : Option Nat) : Prop where
  line_iff : ∀ n, line = some n ↔ 1 ≤ n ∧ n ≤ 4294967295 ∧ Captured m e.rule.lineGroup n
  column_iff : ∀ n, column = some n ↔
    n ≤ 4294967295 ∧ ∃ index, e.rule.columnGroup = some index ∧ Captured m index n

theorem numberIn_eq_some_iff {m : Match} {index : UInt64} {n : UInt32} :
    numberIn m index = some n ↔ Captured m index n.toNat := by
  simp only [numberIn, Option.bind_eq_some_iff, Text.word32?_eq_some_iff, Captured]

/-- A number of 32 bits is captured if it is the one that is read. -/
theorem captured_iff {m : Match} {index : UInt64} {n : Nat} :
    (n ≤ 4294967295 ∧ Captured m index n) ↔ (numberIn m index).map UInt32.toNat = some n := by
  rw [Option.map_eq_some_iff]
  constructor
  · rintro ⟨hsmall, hcaptured⟩
    have hn : (UInt32.ofNat n).toNat = n := UInt32.toNat_ofNat_of_lt' (Nat.lt_succ_of_le hsmall)
    exact ⟨UInt32.ofNat n, numberIn_eq_some_iff.mpr (hn.symm ▸ hcaptured), hn⟩
  · rintro ⟨word, hword, rfl⟩
    exact ⟨Nat.le_of_lt_succ word.toNat_lt, numberIn_eq_some_iff.mp hword⟩

/-- The line that is read, if it counts. -/
def lineOf (e : Extractor) (m : Match) : Option UInt32 :=
  (numberIn m e.rule.lineGroup).filter (· ≠ 0)

/-- The column that is read. -/
def columnOf (e : Extractor) (m : Match) : Option UInt32 := e.rule.columnGroup.bind (numberIn m)

/-- A match names what is read from its groups. -/
theorem names_read (e : Extractor) (m : Match) :
    e.Names m ((e.lineOf m).map UInt32.toNat) ((e.columnOf m).map UInt32.toNat) where
  line_iff n := by
    rw [captured_iff, lineOf]
    cases numberIn m e.rule.lineGroup with
    | none => simp
    | some word =>
        have hzero : word = 0 ↔ word.toNat = 0 := UInt32.toNat_inj.symm
        by_cases hword : word = 0
        · simp only [hword, Option.map_some]
          simp
          omega
        · have hpositive : 1 ≤ word.toNat := Nat.pos_of_ne_zero (mt hzero.mpr hword)
          simp only [ne_eq, hword, not_false_eq_true, decide_true, Option.filter_some, if_true,
            Option.map_some, Option.some.injEq]
          omega
  column_iff n := by
    rw [columnOf]
    cases hcolumn : e.rule.columnGroup with
    | none => simp
    | some index =>
        rw [Option.bind_some, ← captured_iff]
        simp

end Extractor

/-! ## What is shown -/

/-- The range does not end before it starts. -/
def EditorDiagnostic.Ordered (d : EditorDiagnostic) : Prop :=
  d.start.line < d.stop.line ∨ d.start.line = d.stop.line ∧ d.start.character ≤ d.stop.character

/-- The diagnostic is about a line and a column: it says so itself, an editor marks it there, and
it is reported so. Without a column it is about the whole line, without a line an editor shows it
on the first one, and the report has a question mark. -/
structure Diagnostic.Shows (d : Diagnostic) (line column : Option Nat) : Prop where
  line_eq : d.line.map UInt32.toNat = line.map (· - 1)
  start_eq : d.start.toNat = column.getD 0
  stop_eq : d.stop.toNat = column.getD 4294967295
  isWholeLine_eq : d.isWholeLine = column.isNone
  marked : ∀ source, ∃ start stop,
    EditorDiagnostic.ofDiagnostic source d =
        ⟨start, stop, d.severity, d.code, source, d.message⟩ ∧
      start.line.toNat = (line.map (· - 1)).getD 0 ∧ stop.line = start.line ∧
      start.character.toNat = column.getD 0 ∧ stop.character.toNat = column.getD 4294967295
  reported : ∀ coloured source before after,
    renderText coloured source (before ++ d :: after) =
      renderText coloured source before ++
        (source ++ ":" ++ line.elim "?" toString ++ column.elim "" (":" ++ toString ·) ++ ": " ++
          painted coloured (severityStyle d.severity) d.severity.name ++
          bracketed d.code ++ ": " ++ d.message ++ "\n") ++
        renderText coloured source after

/-- The place of a diagnostic is the source, the line or a question mark, and the column if it has
one. -/
theorem CommandLine.place_eq (source : String) (d : Diagnostic) :
    place source d =
      source ++ ":" ++ d.line.elim "?" (fun n => toString (n.toNat + 1)) ++
        if d.isWholeLine then "" else ":" ++ toString d.start.toNat := by
  rw [place]
  cases d.line <;> cases d.isWholeLine <;> simp [← String.append_assoc]

namespace Extractor

theorem line_diagnostic (e : Extractor) (m : Match) :
    (e.diagnostic m).line = (e.lineOf m).map (· - 1) := by
  simp only [diagnostic, lineOf]
  cases numberIn m e.rule.lineGroup with
  | none => rfl
  | some word => by_cases hword : word = 0 <;> simp [hword, Option.filter_some]

/-- The line that is read is not zero, so one less is one less. -/
theorem toNat_pred {e : Extractor} {m : Match} {word : UInt32} (h : e.lineOf m = some word) :
    (word - 1).toNat + 1 = word.toNat := by
  have hword : word ≠ 0 := by
    simpa using (Option.filter_eq_some_iff.mp h).2
  have hpositive : (1 : UInt32).toNat ≤ word.toNat :=
    Nat.pos_of_ne_zero fun hzero => hword (UInt32.toNat_inj.mp hzero)
  rw [UInt32.toNat_sub_of_le _ _ (UInt32.le_iff_toNat_le.mpr hpositive)]
  exact Nat.sub_add_cancel hpositive

/-- The diagnostic of a match is about the line and the column that are read. -/
theorem diagnostic_shows (e : Extractor) (m : Match) :
    (e.diagnostic m).Shows ((e.lineOf m).map UInt32.toNat) ((e.columnOf m).map UInt32.toNat) := by
  have hline : (e.diagnostic m).line.map UInt32.toNat =
      ((e.lineOf m).map UInt32.toNat).map (· - 1) := by
    rw [line_diagnostic]
    cases hword : e.lineOf m with
    | none => rfl
    | some word => simp [← toNat_pred hword]
  have hstart : (e.diagnostic m).start.toNat = ((e.columnOf m).map UInt32.toNat).getD 0 := by
    show ((e.columnOf m).getD 0).toNat = _
    cases e.columnOf m <;> rfl
  have hstop : (e.diagnostic m).stop.toNat =
      ((e.columnOf m).map UInt32.toNat).getD 4294967295 := by
    show ((e.columnOf m).getD wholeLineEnd).toNat = _
    cases e.columnOf m <;> rfl
  have hwhole : (e.diagnostic m).isWholeLine = ((e.columnOf m).map UInt32.toNat).isNone := by
    show (decide ((e.columnOf m).getD 0 = 0) &&
      decide ((e.columnOf m).getD wholeLineEnd = wholeLineEnd)) = _
    cases e.columnOf m with
    | none => rfl
    | some column =>
        -- No column is both the first and the last one.
        by_cases hzero : column = 0 <;> simp [hzero, wholeLineEnd]
  refine ⟨hline, hstart, hstop, hwhole, fun source => ?_, fun coloured source before after => ?_⟩
  · refine ⟨_, _, rfl, ?_, rfl, hstart, hstop⟩
    rw [← hline]
    cases (e.diagnostic m).line <;> rfl
  · have hplace : place source (e.diagnostic m) =
        source ++ ":" ++ ((e.lineOf m).map UInt32.toNat).elim "?" toString ++
          ((e.columnOf m).map UInt32.toNat).elim "" (":" ++ toString ·) := by
      rw [CommandLine.place_eq, hwhole, hstart, line_diagnostic]
      congr 1
      · cases hword : e.lineOf m with
        | none => rfl
        | some word => simp [toNat_pred hword]
      · cases e.columnOf m <;> rfl
    rw [renderText, List.map_append, List.map_cons, String.join_append, String.join_cons,
      reportLine, hplace, ← String.append_assoc]
    rfl

/-- A diagnostic has one column, or starts with the first one. -/
theorem start_le_stop (e : Extractor) (m : Match) :
    (e.diagnostic m).start ≤ (e.diagnostic m).stop := by
  have hshows := e.diagnostic_shows m
  rw [UInt32.le_iff_toNat_le, hshows.start_eq, hshows.stop_eq]
  cases (e.columnOf m).map UInt32.toNat <;> simp

end Extractor

/-! ## What is published -/

/-- No diagnostic of a run ends before it starts, and this goes for the exit status too. -/
theorem Outcome.start_le_stop {p : Profile} {chunks : List Chunk} {exitCode : Option Int}
    {d : Diagnostic} (h : d ∈ (Outcome.ofChunks p chunks exitCode).diagnostics) :
    d.start ≤ d.stop := by
  rw [diagnostics_ofChunks, Profile.extracted] at h
  rcases List.mem_append.mp h with hextracted | hstatus
  · rcases List.mem_append.mp hextracted with hout | herr
    · obtain ⟨m, -, rfl⟩ := List.mem_map.mp hout
      exact p.extractor.start_le_stop m
    · obtain ⟨m, -, rfl⟩ := List.mem_map.mp herr
      exact p.extractor.start_le_stop m
  · rw [Outcome.exitStatus] at hstatus
    split at hstatus
    · rw [List.mem_singleton.mp hstatus]
      show (0 : UInt32) ≤ wholeLineEnd
      decide
    · simp at hstatus

namespace Server

/-- A run may come to whatever is collected from the output of a linter, or fail. -/
def Runtime.collected : Runtime := fun p _ result =>
  ∀ o, result = .outcome o → ∃ chunks exitCode, o = .ofChunks p chunks exitCode

variable {machine : Machine} {events : List Event} {s : State} {sent : List Effect}

theorem History.ordered (h : History .collected machine events s sent) {uri : String}
    {ds : List EditorDiagnostic} (hpublish : Effect.publish uri ds ∈ sent) :
    ∀ r ∈ ds, r.Ordered := by
  induction h with
  | start => simp at hpublish
  | step e h hadmits ih =>
      rcases List.mem_append.mp hpublish with hearlier | hnow
      · exact ih hearlier
      · rcases publish_cases h.sound hnow with ⟨rfl, -⟩ | ⟨run, hrun, o, rfl, -, -, -, -, rfl⟩
        · simp
        · obtain ⟨chunks, exitCode, rfl⟩ := hadmits run hrun rfl o rfl
          intro r hr
          obtain ⟨d, hd, rfl⟩ := List.mem_map.mp hr
          exact .inr ⟨rfl, Outcome.start_le_stop hd⟩

end Server

/-- For every match in a text there is a diagnostic, in the same order. It shows the line and the
column that the match names, whatever they are, and whatever the matches before it name. No range
that the server publishes ends before it starts. -/
theorem positions_survive (e : Extractor) (text : String) :
    List.Forall₂ (fun m d => ∃ line column, e.Names m line column ∧ d.Shows line column)
        (e.pattern.all text) (e.extract text) ∧
      ∀ machine events s sent, Server.History .collected machine events s sent →
        ∀ uri ds, Server.Effect.publish uri ds ∈ sent → ∀ r ∈ ds, r.Ordered := by
  constructor
  · rw [Extractor.extract, List.forall₂_map_right_iff, List.forall₂_same]
    exact fun m _ => ⟨_, _, e.names_read m, e.diagnostic_shows m⟩
  · intro machine events s sent h uri ds hpublish
    exact h.ordered hpublish

/-- The smallest and the largest numbers, one that is too large, figures that are not needed, and
figures that are not ASCII. -/
example :
    let rule : ExtractionRule := ⟨"(\\S+):(\\S+)", 1, some 2, none, 0, none⟩
    let text := "1:0 4294967295:4294967295 0:4294967296 +007:+007 ٣:٣"
    (rule.compile.toOption.map fun e => (e.extract text).map fun d => (d.line, d.start, d.stop)) =
      some [(some 0, 0, 0), (some 4294967294, 4294967295, 4294967295), (none, 0, 4294967295),
        (some 6, 7, 7), (none, 0, 4294967295)] := by
  decide +kernel

/-- The short settings report the exit status, and their pattern does not match the empty text. -/
theorem diagnostics_of_shortSettings {p : Profile}
    (hp : Server.State.accepted? Server.shortSettings = some (some p)) :
    (Outcome.ofChunks p [] (some 1)).daemonError = none ∧
      (Outcome.ofChunks p [] (some 1)).diagnostics =
        [.wholeLine 0 .info "flake8 exited with code 1"] := by
  have hnone : (Outcome.ofChunks p [] (some 1)).daemonError = none := by
    rw [daemonError_ofChunks]
    show daemonError? "" = none
    decide +kernel
  have hprofile : ((Server.State.accepted? Server.shortSettings).bind id).map (fun p =>
      (p.reportExitStatus, p.extractor.extract "")) = some (true, []) := by
    decide +kernel
  obtain ⟨hreports, hnothing⟩ : p.reportExitStatus = true ∧ p.extractor.extract "" = [] := by
    simpa [hp] using hprofile
  have hextracted : p.extracted (Stream.stdout.bytes []) (Stream.stderr.bytes []) = [] := by
    show p.extractor.extract "" ++ p.extractor.extract "" = []
    rw [hnothing, List.append_nil]
  refine ⟨hnone, ?_⟩
  rw [diagnostics_ofChunks, hextracted, Outcome.exitStatus, if_pos ⟨hnone, hreports⟩,
    Server.linter_of_shortSettings hp]
  show [exitStatusDiagnostic "flake8" (some 1) ""] = _
  decide +kernel

/-- A linter prints nothing, and its exit status is published, for the whole of the first line. -/
theorem positions_survive_exitStatus :
    ∃ p s sent ds, Server.History .collected .plain
        [.configured Server.shortSettings, .opened "a.py" "x",
          .finished 0 (.outcome (.ofChunks p [] (some 1)))] s sent ∧
      Server.Effect.publish "a.py" ds ∈ sent ∧
      ds = [.ofDiagnostic "flake8" (.wholeLine 0 .info "flake8 exited with code 1")] ∧
      ∀ r ∈ ds, r.Ordered := by
  obtain ⟨p, hp⟩ := Server.exists_shortProfile
  obtain ⟨hnone, hdiagnostics⟩ := diagnostics_of_shortSettings hp
  have hcollected : Server.Runtime.collected p "x" (.outcome (.ofChunks p [] (some 1))) := by
    intro other hother
    exact ⟨[], some 1, (Server.RunResult.outcome.inj hother).symm⟩
  have hhistory := Server.history_found .collected .plain hp "a.py" "x" hnone hcollected
  rw [hdiagnostics, Server.linter_of_shortSettings hp] at hhistory
  have hsent : Server.Effect.publish "a.py"
      [.ofDiagnostic "flake8" (.wholeLine 0 .info "flake8 exited with code 1")] ∈
        [Server.Effect.logInfo (Server.State.profileText (some p)),
          .start (Server.shortRun p "a.py" "x"), .publish "a.py"
            (EditorDiagnostic.ofDiagnostics Linter.flake8.name
              [.wholeLine 0 .info "flake8 exited with code 1"])] :=
    List.mem_cons_of_mem _ (List.mem_cons_of_mem _ (List.mem_singleton.mpr rfl))
  exact ⟨p, _, _, _, hhistory, hsent, rfl,
    (positions_survive p.extractor "").2 _ _ _ _ hhistory _ _ hsent⟩

end ContainerLint
