import ContainerLint.Proofs.CommandLine.Offline
import ContainerLint.Proofs.Linter.Positions
import Mathlib.Algebra.Order.BigOperators.Group.List

/-!
# The lines of a report

A report has a line for each diagnostic, and one more for each line feed that a diagnostic brings
with it (`length_fullLines_renderText`). So its lines are the diagnostics, one by one, exactly if
no message and no code has a line feed (`reportedByLine_iff`). This holds of what is read from the
streams of a linter if the pattern takes no line feed into these groups; but the exit status of a
linter that printed anything is told in several lines (`not_reportedByLine_exitStatus`).
-/

namespace ContainerLint

open CommandLine (renderText reportLine painted severityStyle bracketed place_eq)

/-- How a diagnostic is reported: source, line and column, severity, code and message. -/
def Diagnostic.reported (coloured : Bool) (source : String) (d : Diagnostic) : String :=
  source ++ ":" ++ d.line.elim "?" (fun n => toString (n.toNat + 1)) ++
    (if d.isWholeLine then "" else ":" ++ toString d.start.toNat) ++ ": " ++
    painted coloured (severityStyle d.severity) d.severity.name ++ bracketed d.code ++ ": " ++
    d.message

/-- How many line feeds are in the message and the code of a diagnostic. -/
def Diagnostic.feeds (d : Diagnostic) : Nat :=
  d.message.toList.count '\n' + d.code.elim 0 (·.toList.count '\n')

/-- The lines of a report are the diagnostics, one by one. -/
def ReportedByLine (coloured : Bool) (source : String) (ds : List Diagnostic) : Prop :=
  Text.fullLines (renderText coloured source ds).toList =
    ds.map fun d => (d.reported coloured source).toList ++ ['\n']

variable {coloured : Bool} {source : String} {d : Diagnostic} {ds : List Diagnostic}

/-! ## The line feeds of a diagnostic -/

theorem Text.feed_not_mem_toString (n : Nat) : '\n' ∉ (toString n).toList := by
  intro h
  rw [Nat.toString_eq_ofList_toDigits, String.toList_ofList] at h
  cases isDigit_of_mem_toDigits h

theorem Diagnostic.count_reported (hsource : '\n' ∉ source.toList) :
    (d.reported coloured source).toList.count '\n' = d.feeds := by
  have hline : (d.line.elim "?" fun n => toString (n.toNat + 1)).toList.count '\n' = 0 := by
    cases d.line with
    | none => decide
    | some n => exact List.count_eq_zero.mpr (Text.feed_not_mem_toString _)
  have hcolumn : (if d.isWholeLine then "" else ":" ++ toString d.start.toNat).toList.count '\n' =
      0 := by
    split
    · decide
    · rw [String.toList_append, List.count_append,
        List.count_eq_zero.mpr (Text.feed_not_mem_toString _)]
      decide
  have hseverity :
      (painted coloured (severityStyle d.severity) d.severity.name).toList.count '\n' = 0 := by
    cases coloured <;> cases d.severity <;> decide
  have hcode : (bracketed d.code).toList.count '\n' = d.code.elim 0 (·.toList.count '\n') := by
    cases d.code <;> simp [bracketed]
  simp only [reported, String.toList_append, List.count_append, hline, hcolumn, hseverity, hcode,
    List.count_eq_zero.mpr hsource, feeds]
  have hcolon : ":".toList.count '\n' = 0 := by decide
  have hspace : ": ".toList.count '\n' = 0 := by decide
  omega

/-! ## The lines of a report -/

/-- A report is what is reported of each diagnostic, and a line feed after each. -/
theorem toList_renderText (coloured : Bool) (source : String) (ds : List Diagnostic) :
    (renderText coloured source ds).toList =
      ds.flatMap fun d => (d.reported coloured source).toList ++ ['\n'] := by
  have hline : ∀ d, (reportLine coloured source d).toList =
      (d.reported coloured source).toList ++ ['\n'] := by
    intro d
    rw [reportLine, place_eq, Diagnostic.reported, String.toList_append]
    rfl
  simp [renderText, String.toList_join, List.flatMap_map, hline]

theorem closed_renderText (coloured : Bool) (source : String) (ds : List Diagnostic) :
    Text.Closed (renderText coloured source ds).toList := by
  rw [toList_renderText, List.flatMap_def]
  refine Text.closed_flatten fun line hline => ?_
  obtain ⟨d, -, rfl⟩ := List.mem_map.mp hline
  exact .inr ⟨_, rfl⟩

/-- A report has a line for each diagnostic, and one for each line feed in a diagnostic. -/
theorem length_fullLines_renderText (coloured : Bool) (hsource : '\n' ∉ source.toList)
    (ds : List Diagnostic) :
    (Text.fullLines (renderText coloured source ds).toList).length =
      ds.length + (ds.map Diagnostic.feeds).sum := by
  rw [Text.length_fullLines, toList_renderText]
  induction ds with
  | nil => rfl
  | cons d ds ih =>
      rw [List.flatMap_cons, List.count_append, List.count_append,
        Diagnostic.count_reported hsource, ih, List.map_cons, List.sum_cons, List.length_cons]
      have hfeed : ['\n'].count '\n' = 1 := by decide
      omega

/-- The lines of a report are the diagnostics exactly if no diagnostic has a line feed. -/
theorem reportedByLine_iff_feeds (hsource : '\n' ∉ source.toList) :
    ReportedByLine coloured source ds ↔ ∀ d ∈ ds, d.feeds = 0 := by
  constructor
  · intro h
    have hlength := length_fullLines_renderText coloured hsource ds
    rw [h, List.length_map] at hlength
    have hsum : (ds.map Diagnostic.feeds).sum = 0 := by omega
    intro d hd
    exact List.sum_eq_zero_iff.mp hsum _ (List.mem_map_of_mem hd)
  · intro h
    rw [ReportedByLine, toList_renderText]
    induction ds with
    | nil => rfl
    | cons d ds ih =>
        have hd : '\n' ∉ (d.reported coloured source).toList := by
          rw [← List.count_eq_zero, Diagnostic.count_reported hsource]
          exact h d List.mem_cons_self
        rw [List.flatMap_cons, List.append_assoc, List.singleton_append, Text.fullLines_line hd,
          ih fun d hd => h d (List.mem_cons_of_mem _ hd), List.map_cons]

/-! ## The diagnostics of a run -/

theorem Text.feed_not_mem_toString_int (n : Int) : '\n' ∉ (toString n).toList := by
  cases n with
  | ofNat n => exact feed_not_mem_toString n
  | negSucc n =>
      show '\n' ∉ ("-" ++ toString (n + 1)).toList
      rw [String.toList_append, List.mem_append, not_or]
      exact ⟨by decide, feed_not_mem_toString _⟩

/-- The exit status is told in one line exactly if the linter printed nothing but blanks. -/
theorem feeds_exitStatusDiagnostic (linter : Linter) (exitCode : Option Int) (output : String) :
    (exitStatusDiagnostic linter.name exitCode output).feeds = 0 ↔ trimmedEnd output = "" := by
  have hname : '\n' ∉ linter.name.toList := by cases linter <;> decide
  have hstatus : ∀ status : String, '\n' ∉ status.toList →
      ((if (trimmedEnd output).isEmpty then status
        else status ++ "\n\n" ++ trimmedEnd output).toList.count '\n' = 0 ↔
          trimmedEnd output = "") := by
    intro status hstatus
    rw [List.count_eq_zero, ← String.isEmpty_iff]
    split
    · rename_i hempty
      exact iff_of_true hstatus hempty
    · rename_i hprinted
      refine iff_of_false (fun hnone => hnone ?_) hprinted
      simp [String.toList_append]
  simp only [exitStatusDiagnostic, Diagnostic.wholeLine, Diagnostic.feeds, Option.elim_none,
    Nat.add_zero]
  refine hstatus _ ?_
  cases exitCode with
  | none =>
      rw [String.toList_append, List.mem_append, not_or]
      exact ⟨hname, by decide⟩
  | some code =>
      rw [String.toList_append, String.toList_append, List.mem_append, List.mem_append, not_or,
        not_or]
      exact ⟨⟨hname, by decide⟩, Text.feed_not_mem_toString_int code⟩

/-- A report ends with a full line. It has a line for each diagnostic, and one more for each line
feed in a message or a code; so its lines are the diagnostics, one by one and in order, exactly if
there is no such line feed. For the diagnostics of a run this means that the pattern brings no
line feed into a message or a code, and that the linter printed nothing but blanks if its exit
status is reported. -/
theorem reportedByLine_iff (coloured : Bool) (hsource : '\n' ∉ source.toList) :
    (∀ ds, Text.openEnd (renderText coloured source ds).toList = [] ∧
      (Text.fullLines (renderText coloured source ds).toList).length =
        ds.length + (ds.map Diagnostic.feeds).sum ∧
      (ReportedByLine coloured source ds ↔ ∀ d ∈ ds, d.feeds = 0)) ∧
    ∀ p chunks exitCode,
      let o := Outcome.ofChunks p chunks exitCode
      ReportedByLine coloured source o.diagnostics ↔
        (∀ d ∈ p.extracted (Stream.stdout.bytes chunks) (Stream.stderr.bytes chunks),
          d.feeds = 0) ∧
        (o.exitStatus p ≠ [] → trimmedEnd o.output = "") := by
  refine ⟨fun ds => ⟨?_, length_fullLines_renderText coloured hsource ds,
    reportedByLine_iff_feeds hsource⟩,
    fun p chunks exitCode => ?_⟩
  · rw [← List.append_nil (renderText coloured source ds).toList,
      Text.openEnd_append (closed_renderText coloured source ds)]
    rfl
  · intro o
    rw [reportedByLine_iff_feeds hsource, diagnostics_ofChunks, List.forall_mem_append]
    refine and_congr_right fun _ => ?_
    have hstatus := feeds_exitStatusDiagnostic p.linter o.exitCode o.output
    show (∀ d ∈ o.exitStatus p, d.feeds = 0) ↔ _
    rw [Outcome.exitStatus]
    split
    · simp [hstatus]
    · simp

/-- Two diagnostics, one of them in two lines: the report has three lines, and they are not the
diagnostics. -/
theorem reportedByLine_iff_three :
    let ds : List Diagnostic :=
      [.wholeLine 4 .error "syntax\nerror", ⟨some 1, 7, 7, .warning, "unused", some "F401"⟩]
    '\n' ∉ "a.pl".toList ∧
      (Text.fullLines (renderText false "a.pl" ds).toList).length = 3 ∧
      ¬ ReportedByLine false "a.pl" ds := by
  intro ds
  have hsource : '\n' ∉ "a.pl".toList := by decide
  obtain ⟨-, hlength, hiff⟩ := (reportedByLine_iff false hsource).1 ds
  refine ⟨hsource, hlength, fun h => ?_⟩
  have hfeeds := hiff.mp h _ List.mem_cons_self
  revert hfeeds
  decide

/-- A linter whose exit status is reported prints a word. The check has one diagnostic to report,
and its report has three lines. -/
theorem not_reportedByLine_exitStatus :
    let w := CommandLine.rehearsed "[perl]\ncontainer = \"pl\"\n" "a.pl" "x" "ok"
    let request : CommandLine.CheckRequest := ⟨"a.pl", none, none, none, none, .text⟩
    let probe : Invocation := DockerEnvironment.initial.probeRequest
    let run : Invocation := ⟨"docker", ["exec", "-i", "pl", "perl", "-c"], [], some "x"⟩
    let report := "a.pl:1: info: perl exited with code 0\n\nok\n"
    w.check request none = ⟨0, report, "0 error(s), 0 warning(s)\n", [probe, run]⟩ ∧
      ∃ p d, w.prepareCheck request none = .ok (p, "x") ∧
        (Outcome.ofChunks p [⟨.stdout, Utf8.encode "ok".toList⟩] (some 0)).diagnostics = [d] ∧
        renderText false "a.pl" [d] = report ∧ (Text.fullLines report.toList).length = 3 ∧
        ¬ ReportedByLine false "a.pl" [d] := by
  intro w request probe run report
  let d : Diagnostic := exitStatusDiagnostic "perl" (some 0) "ok"
  have hprepared : (w.prepareCheck request none).toOption.map (fun prepared => (prepared.2,
      (Outcome.ofChunks prepared.1 [⟨.stdout, Utf8.encode "ok".toList⟩] (some 0)).diagnostics)) =
      some ("x", [d]) := by decide +kernel
  cases hcheck : w.prepareCheck request none with
  | error fault => simp [hcheck, Except.toOption] at hprepared
  | ok prepared =>
      obtain ⟨p, content⟩ := prepared
      simp only [hcheck, Except.toOption, Option.map_some, Option.some.injEq, Prod.mk.injEq]
        at hprepared
      obtain ⟨rfl, hdiagnostics⟩ := hprepared
      refine ⟨by decide +kernel, p, d, rfl, hdiagnostics,
        by decide +kernel, by decide +kernel, ?_⟩
      rw [reportedByLine_iff_feeds (by decide)]
      decide +kernel

end ContainerLint
