import ContainerLint.Proofs.CommandLine.ExitCodes
import ContainerLint.Proofs.CommandLine.ReportLines
import ContainerLint.Proofs.Linter.BuiltIn

/-!
# Reports with a built-in rule

What is reported of a clean diagnostic stands in one line (`Diagnostic.Clean.isBreak_reported`).
So with a rule that is not changed, reading what a linter printed gives a line for each
diagnostic, by whatever line ends the lines are counted, and ends with 1 exactly if there is a
match (`parse_keepsRule`).
-/

namespace ContainerLint

open CommandLine

/-! ## The line of a diagnostic -/

/-- What ends a line is a blank. -/
theorem Text.isBreak_of_not_isBlank {c : Char} (h : isBlank c = false) : isBreak c = false := by
  rw [← Bool.not_eq_true]
  intro hbreak
  simp only [isBreak, Bool.or_eq_true, decide_eq_true_eq] at hbreak
  rcases hbreak with rfl | rfl <;> revert h <;> decide

theorem Text.isBreak_toString (n : Nat) : ∀ c ∈ (toString n).toList, isBreak c = false := by
  rw [Nat.toString_eq_ofList_toDigits, String.toList_ofList]
  exact fun _ => isBreak_of_mem_toDigits

namespace Diagnostic.Clean

variable {coded coloured : Bool} {source : String} {d : Diagnostic}

theorem isBreak_bracketed (h : d.Clean coded) :
    ∀ c ∈ (bracketed d.code).toList, Text.isBreak c = false := by
  cases hcode : d.code with
  | none => exact Text.isBreak_of_all (by decide)
  | some code =>
      simp only [bracketed, String.toList_append, List.forall_mem_append]
      exact ⟨⟨Text.isBreak_of_all (by decide),
        fun c hc => Text.isBreak_of_not_isBlank ((h.code_word code hcode).2 c hc)⟩,
        Text.isBreak_of_all (by decide)⟩

/-- What is reported of a clean diagnostic stands in one line. -/
theorem isBreak_reported (h : d.Clean coded)
    (hsource : ∀ c ∈ source.toList, Text.isBreak c = false) :
    ∀ c ∈ (d.reported coloured source).toList, Text.isBreak c = false := by
  have hcolon : ∀ c ∈ ":".toList, Text.isBreak c = false := Text.isBreak_of_all (by decide)
  have hspace : ∀ c ∈ ": ".toList, Text.isBreak c = false := Text.isBreak_of_all (by decide)
  have hline : ∀ c ∈ (d.line.elim "?" fun n => toString (n.toNat + 1)).toList,
      Text.isBreak c = false := by
    cases d.line with
    | none => exact Text.isBreak_of_all (by decide)
    | some n => exact Text.isBreak_toString _
  have hcolumn : ∀ c ∈ (if d.isWholeLine then "" else ":" ++ toString d.start.toNat).toList,
      Text.isBreak c = false := by
    split
    · exact Text.isBreak_of_all (by decide)
    · rw [String.toList_append, List.forall_mem_append]
      exact ⟨hcolon, Text.isBreak_toString _⟩
  have hseverity : ∀ c ∈ (painted coloured (severityStyle d.severity) d.severity.name).toList,
      Text.isBreak c = false :=
    Text.isBreak_of_all (by cases coloured <;> cases d.severity <;> decide)
  simp only [reported, String.toList_append, List.forall_mem_append]
  exact ⟨⟨⟨⟨⟨⟨⟨⟨hsource, hcolon⟩, hline⟩, hcolumn⟩, hspace⟩, hseverity⟩, h.isBreak_bracketed⟩,
    hspace⟩, h.message_line⟩

theorem feeds_eq_zero (h : d.Clean coded) : d.feeds = 0 := by
  have hcount : (d.reported false "").toList.count '\n' = d.feeds := count_reported (by simp)
  rw [← hcount, List.count_eq_zero]
  intro hfeed
  cases h.isBreak_reported (by simp) _ hfeed

end Diagnostic.Clean

/-- The lines of a text are the given ones, each with a line feed after it, and there are no other
line ends. -/
structure Text.TellsLines (text : List Char) (told : List (List Char)) : Prop where
  fullLines : Text.fullLines text = told.map (· ++ ['\n'])
  openEnd : Text.openEnd text = []
  lines : Text.lines text = told ++ [[]]

/-- A report tells clean diagnostics one by one, if the name of the source is in one line. -/
theorem tellsLines_renderText {coded coloured : Bool} {source : String} {ds : List Diagnostic}
    (hsource : ∀ c ∈ source.toList, Text.isBreak c = false) (hclean : ∀ d ∈ ds, d.Clean coded) :
    Text.TellsLines (renderText coloured source ds).toList
      (ds.map fun d => (d.reported coloured source).toList) := by
  have hfeed : '\n' ∉ source.toList := fun hmem => by cases hsource _ hmem
  have hunbroken : ∀ l ∈ ds.map fun d => ((d.reported coloured source).toList, Text.LineEnd.feed),
      ∀ c ∈ l.1, Text.isBreak c = false :=
    List.forall_mem_map.mpr fun d hd => (hclean d hd).isBreak_reported hsource
  have hlines := Text.lines_ended_append hunbroken []
  rw [List.append_nil, List.flatMap_map, List.map_map] at hlines
  refine ⟨?_, ?_, ?_⟩
  · rw [List.map_map]
    exact (reportedByLine_iff_feeds hfeed).mpr fun d hd => (hclean d hd).feeds_eq_zero
  · rw [← List.append_nil (renderText coloured source ds).toList,
      Text.openEnd_append (closed_renderText coloured source ds)]
    rfl
  · rw [toList_renderText]
    exact hlines

namespace CommandLine

variable {w : Surroundings} {r : ParseRequest} {config : Option String} {settings : Settings}
  {l : Linter} {s : ProfileSettings} {e : Extractor}

/-- How a command ends that reads what a linter printed, if there is an extractor for it. -/
theorem parse_of_extractor (hsettings : w.settings config = .ok settings)
    (hlinter : chooseLinter settings r.profile = .ok l)
    (hextractor : (settings.profileSettings l).extractor l = .ok e) :
    w.parse r config =
      match w.sourceText r.input with
      | .ok (source, text) => w.report r.format source l (e.extract text) []
      | .error failure => w.failed failure [] := by
  rw [Surroundings.parse, Surroundings.parsed, hsettings]
  simp only [bind, Except.bind, hlinter, hextractor, orBadSettings]
  cases w.sourceText r.input <;> rfl

/-- If all diagnostics are errors, a report ends with 1 exactly if there are any. -/
theorem exitCode_report_of_errors {ds : List Diagnostic} (h : ∀ d ∈ ds, d.severity = .error)
    (w : Surroundings) (format : ReportFormat) (source : String) (linter : Linter)
    (asked : List Invocation) :
    ((w.report format source linter ds asked).exitCode = 1 ↔ ds ≠ []) ∧
      ((w.report format source linter ds asked).exitCode = 0 ↔ ds = []) := by
  obtain ⟨hone, hzero⟩ := exitCode_report_iff w format source linter ds asked
  rw [hone, hzero]
  cases ds with
  | nil => simp
  | cons d ds =>
      have hd := h d List.mem_cons_self
      exact ⟨iff_of_true ⟨d, List.mem_cons_self, hd⟩ (List.cons_ne_nil _ _),
        iff_of_false (fun hnone => hnone d List.mem_cons_self hd) (List.cons_ne_nil _ _)⟩

/-- With the built-in rule all diagnostics are errors, so reading a text ends with 1 exactly if it
has a match. -/
theorem exitCode_report_extract (w : Surroundings) (format : ReportFormat) (source : String)
    (l : Linter) (text : String) :
    ((w.report format source l (l.extractor.extract text) []).exitCode = 1 ↔
        l.extractor.pattern.all text ≠ []) ∧
      ((w.report format source l (l.extractor.extract text) []).exitCode = 0 ↔
        l.extractor.pattern.all text = []) := by
  have hnil : l.extractor.extract text = [] ↔ l.extractor.pattern.all text = [] :=
    List.map_eq_nil_iff
  obtain ⟨hone, hzero⟩ := exitCode_report_of_errors
    (fun d hd => (Linter.extract_clean text d hd).severity) w format source l []
  exact ⟨hone.trans (not_congr hnil), hzero.trans hnil⟩

/-- A profile keeps the built-in pattern and its groups, whatever else is changed. Then its
extractor is the built-in one. Every diagnostic of every text is an error with a message in one
line, which is not empty; it has a code if the linter prints codes, and this is a word without
blanks. There is a diagnostic for each match, and there are matches exactly if a way leads through
the pattern from some place of the text. So reading ends with 1 exactly if there is a text to read
and it has a match, and with 0 if it has none. The diagnostics are printed one by one, each in a
line that a line feed ends, if the name of the source is in one line. -/
theorem parse_keepsRule (h : s.KeepsRule) :
    s.extractor l = .ok l.extractor ∧
    (∀ text, (∀ d ∈ l.extractor.extract text, d.Clean l.rule.codeGroup.isSome) ∧
      (l.extractor.extract text).length = (l.extractor.pattern.all text).length ∧
      (l.extractor.pattern.all text ≠ [] ↔ l.node.OccursIn text.toList)) ∧
    ∀ w r config settings, w.settings config = .ok settings →
      chooseLinter settings r.profile = .ok l → settings.profileSettings l = s →
      let finished := (Request.run (.parse r) config).perform w
      (finished.exitCode = 1 ↔ ∃ source text, w.sourceText r.input = .ok (source, text) ∧
        l.extractor.pattern.all text ≠ []) ∧
      ∀ source text, w.sourceText r.input = .ok (source, text) →
        (finished.exitCode = 0 ↔ l.extractor.pattern.all text = []) ∧
        (r.format = .text → (∀ c ∈ source.toList, Text.isBreak c = false) →
          Text.TellsLines finished.stdout.toList
            ((l.extractor.extract text).map fun d => (d.reported w.coloured source).toList)) := by
  refine ⟨h.extractor_eq l, fun text => ⟨Linter.extract_clean text, List.length_map _,
    Linter.all_ne_nil_iff text⟩, fun w r config settings hsettings hlinter hprofile => ?_⟩
  intro finished
  have hfinished : finished = _ :=
    parse_of_extractor hsettings hlinter (hprofile ▸ h.extractor_eq l)
  clear_value finished
  cases hfound : w.sourceText r.input with
  | error failure =>
      rw [hfound] at hfinished
      simp [hfinished, Surroundings.failed]
  | ok found =>
      obtain ⟨source, text⟩ := found
      simp only [hfound] at hfinished
      obtain ⟨hone, hzero⟩ := exitCode_report_extract w r.format source l text
      rw [← hfinished] at hone hzero
      refine ⟨hone.trans ⟨fun hmatch => ⟨source, text, rfl, hmatch⟩, ?_⟩, ?_⟩
      · rintro ⟨_, _, hsame, hmatch⟩
        cases hsame
        exact hmatch
      · rintro _ _ hsame
        cases hsame
        refine ⟨hzero, fun hformat hsource => ?_⟩
        rw [hfinished, hformat]
        exact tellsLines_renderText hsource (Linter.extract_clean text)

/-- Settings for php that change nothing about its rule. -/
def boxedText : String := "[php]\ncontainer = \"box\"\nreportExitStatus = false\n"

/-- Two errors of php, of which the first goes over the end of a line. The lines end in three
ways. Two lines are printed. -/
theorem parse_keepsRule_twoErrors :
    let text := "Parse error:\r\n\té in x in - on line 3\rFatal error: y in - on line 12\n"
    let w := rehearsed boxedText "a.php" "x" text
    let request : ParseRequest := ⟨none, none, .text⟩
    let finished := (Request.run (.parse request) none).perform w
    let s : ProfileSettings :=
      { ProfileSettings.unchanged with container := some "box", reportExitStatus := some false }
    s.KeepsRule ∧
      w.settings none = .ok { Settings.empty with php := some (.custom s) } ∧
      w.sourceText none = .ok ("-", text) ∧
      (∀ d ∈ Linter.php.extractor.extract text, d.Clean false) ∧
      finished.exitCode = 1 ∧
      Text.TellsLines finished.stdout.toList
        ["-:3: error: é in x".toList, "-:12: error: y".toList] := by
  intro text w request finished s
  have hkeeps : s.KeepsRule := ⟨rfl, rfl, rfl, rfl, rfl, rfl⟩
  have hsettings : w.settings none = .ok { Settings.empty with php := some (.custom s) } := by
    decide +kernel
  have hsource : w.sourceText none = .ok ("-", text) := by decide +kernel
  have hextract : Linter.php.extractor.extract text =
      [⟨some 2, 0, wholeLineEnd, .error, "é in x", none⟩,
        ⟨some 11, 0, wholeLineEnd, .error, "y", none⟩] := by decide +kernel
  obtain ⟨-, htexts, hparse⟩ := parse_keepsRule (l := .php) hkeeps
  obtain ⟨hclean, hlength, -⟩ := htexts text
  obtain ⟨hone, hprinted⟩ := hparse w request none _ hsettings rfl rfl
  have hmatch : Linter.php.extractor.pattern.all text ≠ [] := by
    rw [← List.length_pos_iff, ← hlength, hextract]
    decide
  have hlines := (hprinted _ _ hsource).2 rfl (Text.isBreak_of_all (by decide))
  rw [hextract] at hlines
  exact ⟨hkeeps, hsettings, hsource, hclean, hone.mpr ⟨_, _, hsource, hmatch⟩, hlines⟩

end CommandLine

end ContainerLint
