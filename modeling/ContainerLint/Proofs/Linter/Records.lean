import ContainerLint.Proofs.Linter.Extraction
import ContainerLint.Proofs.Pattern.Runs

/-!
# Records that flake8 and rubocop print

Both linters print a record in each line, and other lines may stand between the records. A
`RecordFormat` says what a record looks like, which diagnostic it stands for, and what the other
lines must not look like. `records_recovered` says that the built-in extractors of the two linters
give back the records of a report, all of them and nothing else, however the lines are ended.
-/

namespace ContainerLint

open Pattern

/-! ## Reports with records -/

/-- A format of records, each in a line of its own. -/
structure RecordFormat (Record : Type) where
  /-- The line of a record, without its end. -/
  printed : Record → List Char
  /-- The diagnostic that a record stands for. -/
  diagnostic : Record → Diagnostic
  /-- What may stand in the other lines. -/
  IsNoise : List Char → Prop

namespace RecordFormat

variable {Record : Type} {f : RecordFormat Record} {e : Extractor} {n : Node} {captures : Nat}

/-- A line of a report. -/
inductive Line (f : RecordFormat Record)
  | record (r : Record)
  | noise (text : List Char) (isNoise : f.IsNoise text)
    (unbroken : ∀ c ∈ text, Text.isBreak c = false)

/-- The text of a line, without its end. -/
def Line.text : f.Line → List Char
  | .record r => f.printed r
  | .noise text _ _ => text

/-- The record in a line, if it is one. -/
def Line.record? : f.Line → Option Record
  | .record r => some r
  | .noise _ _ _ => none

/-- The text of a report. -/
def report (lines : List (f.Line × Text.LineEnd)) : String :=
  String.ofList (lines.flatMap fun l => l.1.text ++ l.2.chars)

/-- The records of a report. -/
def records (lines : List (f.Line × Text.LineEnd)) : List Record :=
  lines.filterMap fun l => l.1.record?

/-- The extractor makes one diagnostic of every record of a report, in order. -/
def RecoveredBy (f : RecordFormat Record) (e : Extractor) : Prop :=
  ∀ lines : List (f.Line × Text.LineEnd),
    e.extract (report lines) = (records lines).map f.diagnostic

/-- With a linewise pattern it is enough to look at one line: a record gives its diagnostic, and
noise gives nothing. -/
theorem recoveredBy_of_linewise (h : n.Linewise) (hpattern : e.pattern = ⟨n.program, captures⟩)
    (hempty : n.onLine captures [] = none)
    (hprinted : ∀ r, ∀ c ∈ f.printed r, Text.isBreak c = false)
    (hrecord : ∀ r, ∃ m,
      n.onLine captures (f.printed r) = some m ∧ e.diagnostic m = f.diagnostic r)
    (hnoise : ∀ text, f.IsNoise text → n.onLine captures text = none) : f.RecoveredBy e := by
  intro lines
  have hunbroken : ∀ l : f.Line, ∀ c ∈ l.text, Text.isBreak c = false := by
    intro l
    cases l with
    | record r => exact hprinted r
    | noise _ _ unbroken => exact unbroken
  have hfound : ∀ l : f.Line,
      (n.onLine captures l.text).map e.diagnostic = l.record?.map f.diagnostic := by
    intro l
    cases l with
    | record r =>
        obtain ⟨m, hm, hdiagnostic⟩ := hrecord r
        rw [Line.text, hm, Line.record?, Option.map_some, Option.map_some, hdiagnostic]
    | noise text isNoise _ =>
        rw [Line.text, hnoise text isNoise]
        rfl
  have hextract := Extractor.extract_lines h hpattern hempty
    (lines.map fun l => (l.1.text, l.2)) (fun l hl => by
      obtain ⟨line, -, rfl⟩ := List.mem_map.mp hl
      exact hunbroken line.1)
  rw [List.flatMap_map, List.filterMap_map] at hextract
  rw [report, hextract, records, List.map_filterMap]
  exact List.filterMap_congr fun l _ => hfound l.1

end RecordFormat

/-- If the groups of a line hold a line, a column, a code and a message, the diagnostic has
them. -/
theorem Extractor.exists_onLine_of_fields {e : Extractor} {n : Node} {text : List Char} {u : Way}
    {pattern : String} {line column : UInt32} {code message : List Char}
    (hrule : e.rule = ⟨pattern, 1, some 2, none, 4, some 3⟩) (hne : line ≠ 0)
    (hfirst : (n.ways ⟨.start text, [(0, .start text)]⟩).head? = some u)
    (hholds : u.Holds [(4, message), (3, code), (2, Nat.toDigits 10 column.toNat),
      (1, Nat.toDigits 10 line.toNat)]) :
    ∃ m, n.onLine 4 text = some m ∧
      e.diagnostic m = ⟨some (line - 1), column, column, .error, String.ofList message,
        some (String.ofList code)⟩ := by
  obtain ⟨m, hm, htexts⟩ := Node.exists_onLine_of_holds 4 hfirst hholds (by simp)
  simp only [List.forall_mem_cons] at htexts
  obtain ⟨hmessage, hcode, hcolumn, hline, -⟩ := htexts
  exact ⟨m, hm, diagnostic_of_texts hrule hne hline hcolumn hmessage hcode⟩

/-! ## flake8 -/

namespace Flake8

/-- A violation. Its code is a word character and a number. -/
structure Violation where
  line : UInt32
  column : UInt32
  letter : Char
  figures : List Char
  message : String
  line_ne_zero : line ≠ 0
  isAsciiWord_letter : Text.isAsciiWord letter = true
  figures_ne_nil : figures ≠ []
  isDigit_figures : ∀ c ∈ figures, c.isDigit = true
  message_ne_empty : message ≠ ""
  isBreak_message : ∀ c ∈ message.toList, Text.isBreak c = false

/-- The code of a violation. -/
def Violation.code (v : Violation) : List Char := v.letter :: v.figures

/-- What stands in front of every violation. -/
def source : List Char := "stdin:".toList

/-- Violations as flake8 prints them of its standard input. -/
def format : RecordFormat Violation where
  printed v :=
    source ++ (Nat.toDigits 10 v.line.toNat ++ ([':'] ++ (Nat.toDigits 10 v.column.toNat ++
      ([':', ' '] ++ (v.code ++ ([' '] ++ v.message.toList))))))
  diagnostic v := ⟨some (v.line - 1), v.column, v.column, .error, v.message,
    some (String.ofList v.code)⟩
  IsNoise text := ¬ source <+: text

/-- The code and the message, which ends with the line. -/
def codeNode : Node :=
  .cat (.capture 3 (.cat (.set Text.wordChars) (.run Text.decimals))) (.cat (.literal [' '])
    (.cat (.capture 4 (.run lineChars)) (.look (.lineEnd true))))

/-- The built-in pattern, with its meaning fixed. -/
def node : Node :=
  .cat (.look (.lineStart true)) (.cat (.literal source)
    (.cat (.capture 1 (.run Text.decimals)) (.cat (.literal [':'])
      (.cat (.capture 2 (.run Text.decimals)) (.cat (.literal [':', ' ']) codeNode)))))

/-- The built-in extractor. -/
def extractor : Extractor := ⟨Linter.flake8.rule, ⟨node.program, 4⟩⟩

theorem footprint_node : node.footprint ≤ footprintLimit := by
  have hletter : (Node.set Text.wordChars).footprint ≤ 50000 := Node.setFootprint_wordChars
  have hcode : codeNode.footprint ≤ _ := Node.footprint_cat_le
    (Node.footprint_capture_le 3 (Node.footprint_cat_le hletter (Nat.le_refl _))) (Nat.le_refl _)
  exact Nat.le_trans (Node.footprint_after (Node.footprint_after (Node.footprint_after
    (Node.footprint_after (Node.footprint_after (Node.footprint_after hcode))))))
    (by decide +kernel)

theorem extractor_eq : ProfileSettings.unchanged.extractor .flake8 = .ok extractor :=
  ProfileSettings.extractor_of_meaning (by decide +kernel) footprint_node (by decide) (by decide)

theorem node_linewise : node.Linewise where
  starts := ⟨_, rfl⟩
  inline := by decide
  productive := by decide
  takesText := by decide
  numbered := by decide

theorem isBreak_printed (v : Violation) : ∀ c ∈ format.printed v, Text.isBreak c = false := by
  have hletter := Text.isBreak_of_isWord (Text.isWord_of_isAsciiWord v.isAsciiWord_letter)
  have hfigures : ∀ c ∈ v.figures, Text.isBreak c = false := fun c hc =>
    Text.isBreak_of_isWord (Text.isWord_of_isAsciiWord
      (Text.isAsciiWord_of_isDigit (v.isDigit_figures c hc)))
  simp only [format, List.forall_mem_append]
  exact ⟨Text.isBreak_of_all (by decide), fun _ => Text.isBreak_of_mem_toDigits,
    Text.isBreak_of_all (by decide), fun _ => Text.isBreak_of_mem_toDigits,
    Text.isBreak_of_all (by decide), List.forall_mem_cons.mpr ⟨hletter, hfigures⟩,
    Text.isBreak_of_all (by decide), v.isBreak_message⟩

/-- After the code and a blank comes the message. -/
theorem ways_codeNode {w : Way} (v : Violation)
    (hrest : w.place.rest = v.code ++ ([' '] ++ v.message.toList)) :
    ∃ u stop, codeNode.ways w = [stop] ∧ w.Past u 3 v.code v.message.toList ∧
      u.Past stop 4 v.message.toList [] := by
  have hblank : Text.decimals.contains ' ' = false := by decide
  have hletter := Text.wordChars_contains_of_isAsciiWord v.isAsciiWord_letter
  have hnext : ∀ {next : Node} (u : Way) c, u.place.rest.head? = some c →
      Text.decimals.contains c = true → (Node.cat (.literal [' ']) next).ways u = [] := by
    intro next u c hu hc
    refine Node.ways_literal_of_ne hu ?_
    rintro rfl
    rw [hblank] at hc
    cases hc
  have hcode : w.Past (w.group 3 (v.letter :: v.figures).length) 3 v.code _ :=
    Way.past_group hrest 3
  obtain ⟨stop, hstop, hmessage⟩ := Node.ways_toLineEnd 4 (hcode.forth [' ']).rest
    (by simpa using v.message_ne_empty) v.isBreak_message
  refine ⟨_, stop, ?_, hcode.forth [' '], hmessage⟩
  rw [codeNode, Node.ways_charField 3 hrest hletter v.figures_ne_nil
    (fun c hc => Text.decimals_contains_of_isDigit (v.isDigit_figures c hc))
    (fun c hc => by cases hc; exact hblank) hnext, Node.ways_literal [' '] hcode.rest, hstop]

/-- A violation is found in its line. -/
theorem exists_onLine (v : Violation) : ∃ m, node.onLine 4 (format.printed v) = some m ∧
    extractor.diagnostic m = format.diagnostic v := by
  let start : Way := ⟨.start (format.printed v), [(0, .start (format.printed v))]⟩
  have hsource : (start.forth source.length).place.rest = _ := Way.rest_forth source rfl
  obtain ⟨atColumn, hline, hpastLine⟩ := Node.ways_number 1 ':' [] Text.decimals_colon hsource
  obtain ⟨atCode, hcolumn, hpastColumn⟩ :=
    Node.ways_number 2 ':' [' '] Text.decimals_colon hpastLine.rest
  obtain ⟨atMessage, stop, hcode, hpastCode, hpastMessage⟩ := ways_codeNode v hpastColumn.rest
  have hways : node.ways start = [stop] := by
    rw [node, Node.ways_lineStart, Node.ways_literal source rfl, hline, hcolumn, hcode]
  have hholds : stop.Holds [(4, v.message.toList), (3, v.code),
      (2, Nat.toDigits 10 v.column.toNat), (1, Nat.toDigits 10 v.line.toNat)] := by
    refine hpastMessage.holds (hpastCode.holds (hpastColumn.holds
      hpastLine.holds_singleton ?_) ?_) ?_ <;> simp
  simpa [format] using Extractor.exists_onLine_of_fields (e := extractor) rfl v.line_ne_zero
    (congrArg List.head? hways) hholds

/-- Nothing is found in a line that starts in another way. -/
theorem onLine_noise {text : List Char} (h : ¬ source <+: text) : node.onLine 4 text = none := by
  refine Node.onLine_eq_none ?_ 4
  rw [node, Node.ways_lineStart]
  exact Node.ways_literal_of_not_prefix h

theorem recoveredBy : format.RecoveredBy extractor :=
  RecordFormat.recoveredBy_of_linewise node_linewise rfl (onLine_noise (by decide))
    isBreak_printed exists_onLine fun _ => onLine_noise

end Flake8

/-! ## rubocop -/

namespace Rubocop

/-- What rubocop prints in front of the message of an offense that it can correct. -/
def marker : List Char := "[Correctable] ".toList

/-- An offense. Its severity is a letter. -/
structure Offense where
  line : UInt32
  column : UInt32
  severity : Char
  correctable : Bool
  message : String
  line_ne_zero : line ≠ 0
  isAlpha_severity : severity.isAlpha = true
  message_ne_empty : message ≠ ""
  isBreak_message : ∀ c ∈ message.toList, Text.isBreak c = false
  not_marked : ¬ marker <+: message.toList

/-- The name of the file that rubocop is told. -/
def source : List Char := "stdin.rb".toList

/-- The message with the marker, if there is one. -/
def Offense.marked (o : Offense) : List Char :=
  (if o.correctable then marker else []) ++ o.message.toList

/-- Offenses as rubocop prints them for an editor. -/
def format : RecordFormat Offense where
  printed o :=
    source ++ ([':'] ++ (Nat.toDigits 10 o.line.toNat ++ ([':'] ++
      (Nat.toDigits 10 o.column.toNat ++
        ([':', ' '] ++ ([o.severity] ++ ([':', ' '] ++ o.marked)))))))
  diagnostic o := ⟨some (o.line - 1), o.column, o.column, .error, o.message,
    some (String.ofList [o.severity])⟩
  IsNoise text := ':' ∉ text

/-- The message, which ends with the line. -/
def messageNode : Node :=
  .cat (.rep (.literal marker) ⟨0, some 1⟩ true)
    (.cat (.capture 4 (.run lineChars)) (.look (.lineEnd true)))

/-- What comes after the name of the file. -/
def placeNode : Node :=
  .cat (.capture 1 (.run Text.decimals)) (.cat (.literal [':'])
    (.cat (.capture 2 (.run Text.decimals)) (.cat (.literal [':', ' '])
      (.cat (.capture 3 (.set Text.wordChars)) (.cat (.literal [':', ' ']) messageNode)))))

/-- The built-in pattern, with its meaning fixed. -/
def node : Node :=
  .cat (.look (.lineStart true)) (.cat (.lazyRun lineChars) (.cat (.literal [':']) placeNode))

/-- The built-in extractor. -/
def extractor : Extractor := ⟨Linter.rubocop.rule, ⟨node.program, 4⟩⟩

theorem footprint_node : node.footprint ≤ footprintLimit := by
  have hletter : (Node.set Text.wordChars).footprint ≤ 50000 := Node.setFootprint_wordChars
  have hplace : placeNode.footprint ≤ _ := Node.footprint_after (Node.footprint_after
    (Node.footprint_after (Node.footprint_after (Node.footprint_cat_le
      (Node.footprint_capture_le 3 hletter) (Nat.le_refl _)))))
  exact Nat.le_trans (Node.footprint_after (Node.footprint_after (Node.footprint_after hplace)))
    (by decide +kernel)

theorem extractor_eq : ProfileSettings.unchanged.extractor .rubocop = .ok extractor :=
  ProfileSettings.extractor_of_meaning (by decide +kernel) footprint_node (by decide) (by decide)

theorem node_linewise : node.Linewise where
  starts := ⟨_, rfl⟩
  inline := by decide
  productive := by decide
  takesText := by decide
  numbered := by decide

/-- A severity is a word character. -/
theorem isAsciiWord_severity (o : Offense) : Text.isAsciiWord o.severity = true := by
  simp [Text.isAsciiWord, Char.isAlphanum, o.isAlpha_severity]

theorem isBreak_printed (o : Offense) : ∀ c ∈ format.printed o, Text.isBreak c = false := by
  have hmarked : ∀ c ∈ o.marked, Text.isBreak c = false := by
    rw [Offense.marked, List.forall_mem_append]
    exact ⟨Text.isBreak_of_all (by cases o.correctable <;> decide), o.isBreak_message⟩
  have hseverity := Text.isBreak_of_isWord (Text.isWord_of_isAsciiWord (isAsciiWord_severity o))
  simp only [format, List.forall_mem_append]
  exact ⟨Text.isBreak_of_all (by decide), Text.isBreak_of_all (by decide),
    fun _ => Text.isBreak_of_mem_toDigits, Text.isBreak_of_all (by decide),
    fun _ => Text.isBreak_of_mem_toDigits, Text.isBreak_of_all (by decide),
    List.forall_mem_singleton.mpr hseverity, Text.isBreak_of_all (by decide), hmarked⟩

/-- The first way is past the marker, if there is one, and then past the message. -/
theorem ways_messageNode {w : Way} (o : Offense) (hrest : w.place.rest = o.marked) :
    ∃ stop more, messageNode.ways w = stop :: more ∧ w.Past stop 4 o.message.toList [] := by
  have hmessage : o.message.toList ≠ [] := by simpa using o.message_ne_empty
  rw [messageNode, Node.ways_optional]
  cases hcorrectable : o.correctable with
  | true =>
      have hmarked : w.place.rest = marker ++ o.message.toList := by
        rw [hrest, Offense.marked, hcorrectable, if_pos rfl]
      have hprefix : marker.isPrefixOf w.place.rest = true :=
        List.isPrefixOf_iff_prefix.mpr ⟨_, hmarked.symm⟩
      obtain ⟨stop, hstop, hpast⟩ :=
        Node.ways_toLineEnd 4 (Way.rest_forth marker hmarked) hmessage o.isBreak_message
      rw [if_pos hprefix, hstop]
      exact ⟨stop, _, rfl, hpast.rest, hpast.text, hpast.kept⟩
  | false =>
      have hplain : w.place.rest = o.message.toList := by
        rw [hrest, Offense.marked, hcorrectable, if_neg Bool.false_ne_true, List.nil_append]
      have hprefix : ¬ marker.isPrefixOf w.place.rest = true := by
        rw [List.isPrefixOf_iff_prefix, hplain]
        exact o.not_marked
      obtain ⟨stop, hstop, hpast⟩ := Node.ways_toLineEnd 4 hplain hmessage o.isBreak_message
      rw [if_neg hprefix, hstop]
      exact ⟨stop, _, rfl, hpast⟩

/-- An offense is found in its line. -/
theorem exists_onLine (o : Offense) : ∃ m, node.onLine 4 (format.printed o) = some m ∧
    extractor.diagnostic m = format.diagnostic o := by
  let start : Way := ⟨.start (format.printed o), [(0, .start (format.printed o))]⟩
  have hsource : ∀ c ∈ source, lineChars.contains c = true := List.all_eq_true.mp (by decide)
  obtain ⟨longer, hfile⟩ := Node.ways_lazyField (w := start) ':' [] placeNode rfl (by decide)
    hsource (by decide)
  -- Past the name of the file all is determined but the marker.
  obtain ⟨atColumn, hline, hpastLine⟩ := Node.ways_number 1 ':' [] Text.decimals_colon
    (Way.rest_forth [':'] (Way.rest_forth source (w := start) rfl))
  obtain ⟨atSeverity, hcolumn, hpastColumn⟩ :=
    Node.ways_number 2 ':' [' '] Text.decimals_colon hpastLine.rest
  have hword := Text.wordChars_contains_of_isAsciiWord (isAsciiWord_severity o)
  have hletter := Way.past_group hpastColumn.rest 3
  have hseverity := hletter.forth [':', ' ']
  obtain ⟨stop, more, hmessage, hpastMessage⟩ := ways_messageNode o hseverity.rest
  have hways : (node.ways start).head? = some stop := by
    rw [node, Node.ways_lineStart, hfile, placeNode, hline, hcolumn,
      Node.ways_char 3 hpastColumn.rest hword, Node.ways_literal [':', ' '] hletter.rest,
        hmessage]
    rfl
  have hholds : stop.Holds [(4, o.message.toList), (3, [o.severity]),
      (2, Nat.toDigits 10 o.column.toNat), (1, Nat.toDigits 10 o.line.toNat)] := by
    refine hpastMessage.holds (hseverity.holds (hpastColumn.holds
      hpastLine.holds_singleton ?_) ?_) ?_ <;> simp
  simpa [format] using Extractor.exists_onLine_of_fields (e := extractor) rfl o.line_ne_zero
    hways hholds

/-- Nothing is found in a line without a colon. -/
theorem onLine_noise {text : List Char} (h : ':' ∉ text) : node.onLine 4 text = none := by
  refine Node.onLine_eq_none ?_ 4
  rw [node, Node.ways_lineStart]
  exact Node.ways_lazyField_eq_nil h

theorem recoveredBy : format.RecoveredBy extractor :=
  RecordFormat.recoveredBy_of_linewise node_linewise rfl (onLine_noise (by decide))
    isBreak_printed exists_onLine fun _ => onLine_noise

end Rubocop

/-- The built-in extractors of flake8 and rubocop make one diagnostic of every record of a report,
in order, and nothing of the other lines. -/
theorem records_recovered :
    (∃ e, ProfileSettings.unchanged.extractor .flake8 = .ok e ∧ Flake8.format.RecoveredBy e) ∧
      ∃ e, ProfileSettings.unchanged.extractor .rubocop = .ok e ∧ Rubocop.format.RecoveredBy e :=
  ⟨⟨_, Flake8.extractor_eq, Flake8.recoveredBy⟩, ⟨_, Rubocop.extractor_eq, Rubocop.recoveredBy⟩⟩

/-- A violation of flake8 in the last line that there can be. -/
def Flake8.atEnd : Violation where
  line := 4294967295
  column := 0
  letter := 'W'
  figures := ['6', '0', '5']
  message := "invalid escape sequence"
  line_ne_zero := by decide
  isAsciiWord_letter := by decide
  figures_ne_nil := by decide
  isDigit_figures := List.all_eq_true.mp (by decide)
  message_ne_empty := by decide
  isBreak_message := Text.isBreak_of_all (by decide)

/-- A line that looks like a violation but for the blank in front of it, and a violation. -/
def Flake8.indentedFirst : List (format.Line × Text.LineEnd) :=
  [(.noise " stdin:1:1: E1 x".toList (show ¬ source <+: _ by decide)
      (Text.isBreak_of_all (by decide)), .returnFeed),
    (.record atEnd, .feed)]

/-- An offense of rubocop whose message looks like an offense. -/
def Rubocop.nested : Offense where
  line := 12
  column := 0
  severity := 'C'
  correctable := true
  message := "2:3: W: x"
  line_ne_zero := by decide
  isAlpha_severity := by decide
  message_ne_empty := by decide
  isBreak_message := Text.isBreak_of_all (by decide)
  not_marked := by decide

/-- A line without a colon, an offense, and an empty line. -/
def Rubocop.inspected : List (format.Line × Text.LineEnd) :=
  [(.noise "Inspecting".toList (show ':' ∉ _ by decide) (Text.isBreak_of_all (by decide)), .feed),
    (.record nested, .returnFeed), (.noise [] (show ':' ∉ _ by decide) (by simp), .feed)]

/-- A report of each linter, with the diagnostic that is made of it. -/
theorem records_recovered_amongNoise :
    RecordFormat.report Flake8.indentedFirst =
        " stdin:1:1: E1 x\r\nstdin:4294967295:0: W605 invalid escape sequence\n" ∧
      RecordFormat.report Rubocop.inspected =
        "Inspecting\nstdin.rb:12:0: C: [Correctable] 2:3: W: x\r\n\n" ∧
      (∃ e, ProfileSettings.unchanged.extractor .flake8 = .ok e ∧
        e.extract (RecordFormat.report Flake8.indentedFirst) =
          [⟨some 4294967294, 0, 0, .error, "invalid escape sequence", some "W605"⟩]) ∧
      ∃ e, ProfileSettings.unchanged.extractor .rubocop = .ok e ∧
        e.extract (RecordFormat.report Rubocop.inspected) =
          [⟨some 11, 0, 0, .error, "2:3: W: x", some "C"⟩] := by
  obtain ⟨⟨e, he, hviolations⟩, f, hf, hoffenses⟩ := records_recovered
  refine ⟨by decide +kernel, by decide +kernel, ⟨e, he, ?_⟩, f, hf, ?_⟩
  · rw [hviolations]
    decide +kernel
  · rw [hoffenses]
    decide +kernel

end ContainerLint
