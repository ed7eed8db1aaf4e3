import ContainerLint.CommandLine.Report
import ContainerLint.Proofs.Json.Reading
import ContainerLint.Proofs.Value.Records
import ContainerLint.Settings.Data

/-!
# Settings and diagnostics that are read back

Settings, extraction rules and diagnostics that were written as data, or as a text, are read as
what they were, and so is a report in JSON (`serialised_read_back`). An entry of the settings is
told from a truth value by its shape, and a command as a list from one in a single text.
-/

namespace ContainerLint

/-! ## Diagnostics -/

theorem Severity.faithful : Faithful Severity.toValue Severity.decode where
  plain s := .str s.name
  present hf s := by simp [toValue, hf.str]
  reads hf s := by
    rw [toValue, hf.str]
    cases s <;> rfl

namespace Diagnostic

/-- The fields of a diagnostic as they are written. -/
def written (d : Diagnostic) : List (String × Option Value) :=
  [("line", some (orNull word32Value d.line)),
    ("start", some (word32Value d.start)),
    ("end", some (word32Value d.stop)),
    ("severity", some d.severity.toValue),
    ("message", some (.str d.message)),
    ("code", d.code.map .str)]

theorem toValue_eq (d : Diagnostic) : d.toValue = .obj (membersOf d.written) := by
  obtain ⟨line, start, stop, severity, message, code⟩ := d
  cases line <;> cases code <;> rfl

/-- The tests that the members of a diagnostic are put to. -/
def checks : List (String × (Value → Decoded Unit)) :=
  [("line", Decode.check (Decode.option Decode.word32)),
    ("start", Decode.check Decode.word32),
    ("end", Decode.check Decode.word32),
    ("severity", Decode.check Severity.decode),
    ("message", Decode.check Decode.text),
    ("code", Decode.check (Decode.option Decode.text))]

theorem written_agrees (d : Diagnostic) : List.Forall₂ Agrees d.written checks :=
  .cons (.nullable "line" word32_faithful d.line) <|
    .cons (.always "start" word32_faithful d.start) <|
    .cons (.always "end" word32_faithful d.stop) <|
    .cons (.always "severity" Severity.faithful d.severity) <|
    .cons (.always "message" text_faithful d.message) <|
    .cons (.leftOut "code" text_faithful d.code) .nil

theorem nodup_checks : (checks.map Prod.fst).Nodup := by decide

theorem faithful : Faithful toValue decode := by
  refine .of_fields toValue_eq written_agrees nodup_checks fun f d placed h => ?_
  refine (h.record "Diagnostic" _).trans ?_
  simp only
  rw [h.nullable word32_faithful 0 (a := d.line) rfl,
    h.required word32_faithful 1 (a := d.start) rfl,
    h.required word32_faithful 2 (a := d.stop) rfl,
    h.required Severity.faithful 3 (a := d.severity) rfl,
    h.required text_faithful 4 (a := d.message) rfl,
    h.optional text_faithful 5 (a := d.code) rfl]
  rfl

end Diagnostic

/-! ## Extraction rules -/

namespace ExtractionRule

/-- The fields of a rule as they are written. -/
def written (r : ExtractionRule) : List (String × Option Value) :=
  [("pattern", some (.str r.pattern)),
    ("lineGroup", some (indexValue r.lineGroup)),
    ("columnGroup", r.columnGroup.map indexValue),
    ("severityGroup", r.severityGroup.map indexValue),
    ("messageGroup", some (indexValue r.messageGroup)),
    ("codeGroup", r.codeGroup.map indexValue)]

theorem toValue_eq (r : ExtractionRule) : r.toValue = .obj (membersOf r.written) := by
  obtain ⟨pattern, lineGroup, columnGroup, severityGroup, messageGroup, codeGroup⟩ := r
  cases columnGroup <;> cases severityGroup <;> cases codeGroup <;> rfl

theorem written_agrees (r : ExtractionRule) : List.Forall₂ Agrees r.written checks :=
  .cons (.always "pattern" text_faithful r.pattern) <|
    .cons (.always "lineGroup" index_faithful r.lineGroup) <|
    .cons (.leftOut "columnGroup" index_faithful r.columnGroup) <|
    .cons (.leftOut "severityGroup" index_faithful r.severityGroup) <|
    .cons (.always "messageGroup" index_faithful r.messageGroup) <|
    .cons (.leftOut "codeGroup" index_faithful r.codeGroup) .nil

theorem nodup_checks : (checks.map Prod.fst).Nodup := by decide

theorem faithful : Faithful toValue decode := by
  refine .of_fields toValue_eq written_agrees nodup_checks fun f r placed h => ?_
  rw [decode, h.record,
    h.required text_faithful 0 (a := r.pattern) rfl,
    h.required index_faithful 1 (a := r.lineGroup) rfl,
    h.optional index_faithful 2 (a := r.columnGroup) rfl,
    h.optional index_faithful 3 (a := r.severityGroup) rfl,
    h.required index_faithful 4 (a := r.messageGroup) rfl,
    h.optional index_faithful 5 (a := r.codeGroup) rfl]
  rfl

end ExtractionRule

/-! ## Settings -/

theorem CommandSpec.faithful : Faithful CommandSpec.toValue CommandSpec.decode where
  plain spec := by
    cases spec with
    | line text => exact text_faithful.plain text
    | arguments items => exact text_faithful.list.plain items
  present hf spec := by
    cases spec with
    | line text => exact text_faithful.present hf text
    | arguments items => exact text_faithful.list.present hf items
  reads hf spec := by
    cases spec with
    | line text =>
        rw [toValue, hf.str]
        rfl
    | arguments items =>
        rw [toValue, hf.arr, decode, text_faithful.mapM hf]

namespace ProfileSettings

theorem member_eq {α : Type} (name : String) (write : α → Value) (a : Option α) :
    member name write a = membersOf [(name, a.map write)] := by
  cases a <;> rfl

/-- The fields of a record of changes as they are written. -/
def written (s : ProfileSettings) : List (String × Option Value) :=
  [("container", s.container.map .str),
    ("command", s.command.map CommandSpec.toValue),
    ("pattern", s.pattern.map .str),
    ("lineGroup", s.lineGroup.map indexValue),
    ("columnGroup", s.columnGroup.map indexValue),
    ("severityGroup", s.severityGroup.map indexValue),
    ("messageGroup", s.messageGroup.map indexValue),
    ("codeGroup", s.codeGroup.map indexValue),
    ("reportExitStatus", s.reportExitStatus.map .bool)]

theorem toValue_eq (s : ProfileSettings) : s.toValue = .obj (membersOf s.written) := by
  simp only [toValue, member_eq, membersOf, ← List.filterMap_append]
  rfl

theorem written_agrees (s : ProfileSettings) : List.Forall₂ Agrees s.written checks :=
  .cons (.leftOut "container" text_faithful s.container) <|
    .cons (.leftOut "command" CommandSpec.faithful s.command) <|
    .cons (.leftOut "pattern" text_faithful s.pattern) <|
    .cons (.leftOut "lineGroup" index_faithful s.lineGroup) <|
    .cons (.leftOut "columnGroup" index_faithful s.columnGroup) <|
    .cons (.leftOut "severityGroup" index_faithful s.severityGroup) <|
    .cons (.leftOut "messageGroup" index_faithful s.messageGroup) <|
    .cons (.leftOut "codeGroup" index_faithful s.codeGroup) <|
    .cons (.leftOut "reportExitStatus" bool_faithful s.reportExitStatus) .nil

theorem nodup_checks : (checks.map Prod.fst).Nodup := by decide

theorem faithful : Faithful toValue decode := by
  refine .of_fields toValue_eq written_agrees nodup_checks fun f s placed h => ?_
  rw [decode, h.record,
    h.optional text_faithful 0 (a := s.container) rfl,
    h.optional CommandSpec.faithful 1 (a := s.command) rfl,
    h.optional text_faithful 2 (a := s.pattern) rfl,
    h.optional index_faithful 3 (a := s.lineGroup) rfl,
    h.optional index_faithful 4 (a := s.columnGroup) rfl,
    h.optional index_faithful 5 (a := s.severityGroup) rfl,
    h.optional index_faithful 6 (a := s.messageGroup) rfl,
    h.optional index_faithful 7 (a := s.codeGroup) rfl,
    h.optional bool_faithful 8 (a := s.reportExitStatus) rfl]
  rfl

end ProfileSettings

/-- An entry that is a record is not a truth value, and so is read as a record. -/
theorem ProfileEntry.faithful : Faithful ProfileEntry.toValue ProfileEntry.decode where
  plain e := by
    cases e with
    | enabled on => exact bool_faithful.plain on
    | custom s => exact ProfileSettings.faithful.plain s
  present hf e := by
    cases e with
    | enabled on => exact bool_faithful.present hf on
    | custom s => exact ProfileSettings.faithful.present hf s
  reads hf e := by
    cases e with
    | enabled on => rw [toValue, hf.bool, decode]
    | custom s =>
        have hread := ProfileSettings.faithful.reads hf s
        obtain ⟨placed, hplaced, -⟩ :=
          exists_placed hf s.written_agrees ProfileSettings.nodup_checks
        rw [← ProfileSettings.toValue_eq] at hplaced
        rw [hplaced] at hread
        rw [toValue, hplaced, decode, hread]
        exact fun b => Value.noConfusion

namespace Settings

/-- The fields of settings as they are written. -/
def written (s : Settings) : List (String × Option Value) :=
  [("activeProfile", s.activeProfile.map .str),
    ("perl", s.perl.map ProfileEntry.toValue),
    ("perlcritic", s.perlcritic.map ProfileEntry.toValue),
    ("flake8", s.flake8.map ProfileEntry.toValue),
    ("rubocop", s.rubocop.map ProfileEntry.toValue),
    ("php", s.php.map ProfileEntry.toValue)]

theorem toValue_eq (s : Settings) : s.toValue = .obj (membersOf s.written) := by
  simp only [toValue, Linter.all, List.flatMap_cons, List.flatMap_nil, ProfileSettings.member_eq,
    membersOf, ← List.filterMap_append, List.append_nil]
  rfl

theorem written_agrees (s : Settings) : List.Forall₂ Agrees s.written checks :=
  .cons (.leftOut "activeProfile" text_faithful s.activeProfile) <|
    .cons (.leftOut "perl" ProfileEntry.faithful s.perl) <|
    .cons (.leftOut "perlcritic" ProfileEntry.faithful s.perlcritic) <|
    .cons (.leftOut "flake8" ProfileEntry.faithful s.flake8) <|
    .cons (.leftOut "rubocop" ProfileEntry.faithful s.rubocop) <|
    .cons (.leftOut "php" ProfileEntry.faithful s.php) .nil

theorem nodup_checks : (checks.map Prod.fst).Nodup := by decide

theorem faithful : Faithful toValue decode := by
  refine .of_fields toValue_eq written_agrees nodup_checks fun f s placed h => ?_
  rw [decode, h.record,
    h.optional text_faithful 0 (a := s.activeProfile) rfl,
    h.optional ProfileEntry.faithful 1 (a := s.perl) rfl,
    h.optional ProfileEntry.faithful 2 (a := s.perlcritic) rfl,
    h.optional ProfileEntry.faithful 3 (a := s.flake8) rfl,
    h.optional ProfileEntry.faithful 4 (a := s.rubocop) rfl,
    h.optional ProfileEntry.faithful 5 (a := s.php) rfl]
  rfl

end Settings

/-! ## Texts -/

variable {α : Type} {write : α → Value} {read : Value → Decoded α}

/-- What is written as data is read back, its members sorted or not, and so is what is written as
a text in either form. -/
structure ReadsBack (write : α → Value) (read : Value → Decoded α) (a : α) : Prop where
  data : read (write a) = .ok a
  sorted : read (write a).sorted = .ok a
  compact : (Json.parse? (Json.compact (write a))).map read = some (.ok a)
  pretty : (Json.parse? (Json.pretty (write a))).map read = some (.ok a)

theorem Faithful.readsBack (h : Faithful write read) (a : α) : ReadsBack write read a := by
  have hsorted := h.reads arranges_sorted a
  refine ⟨h.reads arranges_id a, hsorted, ?_, ?_⟩
  · rw [Json.parse?_compact (h.plain a), Option.map_some, hsorted]
  · rw [Json.parse?_pretty (h.plain a), Option.map_some, hsorted]

namespace CommandLine

/-- The fields of a report as they are written. -/
def reportFields (source : String) (linter : Linter) (ds : List Diagnostic) :
    List (String × Value) :=
  [("source", .str source), ("profile", .str linter.name),
    ("diagnostics", .arr (ds.map Diagnostic.toValue))]

/-- A report is read as an object with the members of the report. -/
theorem parse?_renderJson (source : String) (linter : Linter) (ds : List Diagnostic) :
    ∃ members, Json.parse? (renderJson source linter ds) = some (.obj members) ∧
      ∀ key, members.lookup key =
        ((reportFields source linter ds).lookup key).map Value.sorted := by
  have hplain : (Value.obj (reportFields source linter ds)).Plain := by
    refine .obj fun m hm => ?_
    simp only [reportFields, List.mem_cons, List.not_mem_nil, or_false] at hm
    rcases hm with rfl | rfl | rfl
    · exact .str source
    · exact .str linter.name
    · exact Diagnostic.faithful.list.plain ds
  have hkeys : ((reportFields source linter ds).map Prod.fst).Nodup := by
    show ["source", "profile", "diagnostics"].Nodup
    decide
  obtain ⟨members, hsorted, hlookup, -⟩ := Value.sorted_obj hkeys
  exact ⟨members, hsorted ▸ Json.parse?_pretty hplain, hlookup⟩

end CommandLine

/-- Settings, extraction rules and diagnostics are read back from data and from texts, whatever is
set in them. A report in JSON is read as an object that has the source, the name of the linter and
the diagnostics. -/
theorem serialised_read_back :
    (∀ s, ReadsBack Settings.toValue Settings.decode s) ∧
      (∀ r, ReadsBack ExtractionRule.toValue ExtractionRule.decode r) ∧
      (∀ d, ReadsBack Diagnostic.toValue Diagnostic.decode d) ∧
      ∀ source linter ds, ∃ report,
        Json.parse? (CommandLine.renderJson source linter ds) = some report ∧
          (report.member? "source").map Decode.text = some (.ok source) ∧
          (report.member? "profile").map Decode.text = some (.ok linter.name) ∧
          Linter.named? linter.name = some linter ∧
          (report.member? "diagnostics").map (Decode.list Diagnostic.decode) = some (.ok ds) := by
  refine ⟨Settings.faithful.readsBack, ExtractionRule.faithful.readsBack,
    Diagnostic.faithful.readsBack, fun source linter ds => ?_⟩
  obtain ⟨members, hparse, hlookup⟩ := CommandLine.parse?_renderJson source linter ds
  have hnamed : Linter.named? linter.name = some linter := by
    cases linter <;> decide
  have hds := Diagnostic.faithful.list.reads arranges_sorted ds
  refine ⟨_, hparse, ?_, ?_, hnamed, ?_⟩
  · rw [Value.member?, hlookup]
    rfl
  · rw [Value.member?, hlookup]
    rfl
  · rw [Value.member?, hlookup]
    exact congrArg some hds

end ContainerLint
