import ContainerLint.Profile
import ContainerLint.Proofs.Text.Blanks

/-!
# What is objected to in a profile

Before a profile is run its settings are put to some checks, one after the other
(`Check.inOrder`). `Objects` says of each check by itself what it objects to, and `Resolved` what
a profile consists of whose settings are in order. `resolve_first_objection` says that the first
check that objects decides, and that without an objection the profile is made; the groups that its
rule names then exist in every match.
-/

namespace ContainerLint

/-- The parts of a diagnostic, in the order in which their groups are checked. -/
def GroupField.inOrder : List GroupField := [.line, .column, .severity, .message, .code]

namespace ExtractionRule

/-- The index that a rule names for a part of a diagnostic. -/
def index? (r : ExtractionRule) : GroupField → Option UInt64
  | .line => some r.lineGroup
  | .column => r.columnGroup
  | .severity => r.severityGroup
  | .message => some r.messageGroup
  | .code => r.codeGroup

/-- A part of a diagnostic with the index that a rule names for it. -/
def named? (r : ExtractionRule) (field : GroupField) : Option (GroupField × UInt64) :=
  (r.index? field).map fun index => (field, index)

/-- The fault of an index that is greater than the number of groups. -/
def beyond? (r : ExtractionRule) (available : Nat) (field : GroupField) : Option ConfigFault :=
  (r.index? field).bind fun index =>
    if available < index.toNat then some (.groupOutOfRange field index.toNat available) else none

/-- A rule is its pattern and the indices that it names. -/
theorem eq_of_index {r q : ExtractionRule} (hpattern : r.pattern = q.pattern)
    (hindex : ∀ field, r.index? field = q.index? field) : r = q := by
  obtain ⟨pattern, line, column, severity, message, code⟩ := r
  obtain ⟨pattern', line', column', severity', message', code'⟩ := q
  have hline : line = line' := Option.some.inj (hindex .line)
  have hcolumn : column = column' := hindex .column
  have hseverity : severity = severity' := hindex .severity
  have hmessage : message = message' := Option.some.inj (hindex .message)
  have hcode : code = code' := hindex .code
  subst hpattern hline hcolumn hseverity hmessage hcode
  rfl

/-- A rule whose pattern can be used is refused for the first index that is out of range. -/
theorem compile_of_pattern {r : ExtractionRule} {p : Pattern}
    (hp : Pattern.compile r.pattern = .ok p) :
    r.compile =
      match GroupField.inOrder.findSome? (r.beyond? p.captures) with
      | some fault => .error fault
      | none => .ok ⟨r, p⟩ := by
  have hgroups : r.groups = GroupField.inOrder.filterMap r.named? := rfl
  have hfirst : ∀ fields : List GroupField,
      ((fields.filterMap r.named?).find? fun g => p.captures < g.2.toNat).map (fun g =>
          ConfigFault.groupOutOfRange g.1 g.2.toNat p.captures) =
        fields.findSome? (r.beyond? p.captures) := by
    intro fields
    induction fields with
    | nil => rfl
    | cons f fields ih =>
        cases hindex : r.index? f with
        | none => simpa [named?, beyond?, hindex] using ih
        | some index =>
            by_cases hlt : p.captures < index.toNat
            · simp [named?, beyond?, hindex, hlt]
            · simpa [named?, beyond?, hindex, hlt] using ih
  rw [compile, ← hfirst, ← hgroups]
  simp only [hp]
  cases r.groups.find? fun g => p.captures < g.2.toNat <;> rfl

end ExtractionRule

/-- The checks that the settings of a profile are put to. -/
inductive Check
  | container
  | command
  | given (field : GroupField)
  | pattern
  | range (field : GroupField)
deriving DecidableEq, Repr

namespace Check

/-- The checks of the part that reads output, in the order in which they are made. -/
def ofExtractor : List Check :=
  [.given .line, .given .message, .pattern] ++ GroupField.inOrder.map .range

/-- All checks in the order in which they are made. -/
def inOrder : List Check := [.container, .command] ++ ofExtractor

end Check

namespace ProfileSettings

variable {s : ProfileSettings} {l : Linter} {p q : Profile} {check : Check} {fault : ConfigFault}

/-- The index that the user gives for a part of a diagnostic. -/
def index? (s : ProfileSettings) : GroupField → Option UInt64
  | .line => s.lineGroup
  | .column => s.columnGroup
  | .severity => s.severityGroup
  | .message => s.messageGroup
  | .code => s.codeGroup

/-- The pattern in force: the one of the user, or else the one that is built in. -/
def patternInForce (s : ProfileSettings) (l : Linter) : String := s.pattern.getD l.rule.pattern

/-- The index in force for a part of a diagnostic. With a pattern of the user it is the one of the
user or none; with the built-in pattern it is the one of the user or the one that is built in. -/
def indexInForce (s : ProfileSettings) (l : Linter) (field : GroupField) : Option UInt64 :=
  if s.pattern.isSome then s.index? field else (s.index? field).or (l.rule.index? field)

/-- The command in force: what is between the blanks of a line, a list of arguments as it is, or
the built-in command. -/
inductive Command (s : ProfileSettings) (l : Linter) : List String → Prop
  | builtIn (h : s.command = none) : Command s l l.command
  | listed (items : List String) (h : s.command = some (.arguments items)) : Command s l items
  | written (text : String) (h : s.command = some (.line text)) :
      Command s l (((text.toList.splitOnP Text.isBlank).filter fun word => !word.isEmpty).map
        String.ofList)

/-- What a check objects to in the settings of a profile, whatever the other checks find. -/
inductive Objects (s : ProfileSettings) (l : Linter) : Check → ConfigFault → Prop
  | absent (h : s.container = none) : Objects s l .container (.missingContainer l)
  | blank (text : String) (h : s.container = some text)
      (hblank : ∀ c ∈ text.toList, Text.isBlank c = true) :
      Objects s l .container (.missingContainer l)
  | empty (h : s.Command l []) : Objects s l .command (.emptyCommand l)
  | missing (field : GroupField) (pattern : String) (hpattern : s.pattern = some pattern)
      (h : s.index? field = none) : Objects s l (.given field) (.missingGroup l field)
  | invalid (fault : Pattern.Fault) (h : Pattern.compile (s.patternInForce l) = .error fault) :
      Objects s l .pattern (.invalidPattern (s.patternInForce l) fault)
  | beyond (field : GroupField) (index : UInt64) (pattern : Pattern)
      (hpattern : Pattern.compile (s.patternInForce l) = .ok pattern)
      (hindex : s.indexInForce l field = some index) (h : pattern.captures < index.toNat) :
      Objects s l (.range field) (.groupOutOfRange field index.toNat pattern.captures)

/-- The fault is what the first check that objects to anything objects to. -/
def FirstObjection (s : ProfileSettings) (l : Linter) (fault : ConfigFault) : Prop :=
  ∃ before check after, Check.inOrder = before ++ check :: after ∧ s.Objects l check fault ∧
    ∀ earlier ∈ before, ∀ other, ¬ s.Objects l earlier other

/-- What a profile consists of: the container without blanks at its ends, and the command, the
pattern and the indices in force. -/
structure Resolved (s : ProfileSettings) (l : Linter) (p : Profile) : Prop where
  linter : p.linter = l
  container : ∃ text, s.container = some text ∧
    p.container.toList = (text.toList.dropWhile Text.isBlank).rdropWhile Text.isBlank
  command : s.Command l p.command
  source : p.extractor.rule.pattern = s.patternInForce l
  pattern : Pattern.compile (s.patternInForce l) = .ok p.extractor.pattern
  index : ∀ field, p.extractor.rule.index? field = s.indexInForce l field
  reportExitStatus : p.reportExitStatus = s.reportExitStatus.getD true

/-! ## What is in force -/

theorem Command.eq_arguments {items : List String} (h : s.Command l items) :
    items = s.arguments l := by
  cases h with
  | builtIn h => simp [arguments, h]
  | listed items h => simp [arguments, h, CommandSpec.toList]
  | written text h => simp [arguments, h, CommandSpec.toList, wordsOf, Text.words_eq]

theorem command_arguments (s : ProfileSettings) (l : Linter) : s.Command l (s.arguments l) := by
  cases hcommand : s.command with
  | none =>
      simp only [arguments, hcommand]
      exact .builtIn hcommand
  | some spec =>
      simp only [arguments, hcommand]
      cases spec with
      | line text =>
          simp only [CommandSpec.toList, wordsOf, Text.words_eq]
          exact .written text hcommand
      | arguments items => exact .listed items hcommand

/-- A rule that is made has the pattern and the indices in force. -/
theorem rule_inForce {r : ExtractionRule} (h : s.rule l = .ok r) :
    r.pattern = s.patternInForce l ∧ ∀ field, r.index? field = s.indexInForce l field := by
  simp only [rule] at h
  split at h
  · rename_i pattern hpattern
    split at h
    · cases h
    · cases h
    · rename_i line message hline hmessage
      cases h
      refine ⟨by simp [patternInForce, hpattern], fun field => ?_⟩
      cases field <;>
        simp [ExtractionRule.index?, indexInForce, index?, hpattern, hline, hmessage]
  · rename_i hpattern
    cases h
    refine ⟨by simp [patternInForce, hpattern], fun field => ?_⟩
    cases field with
    | line => cases hline : s.lineGroup <;>
        simp [ExtractionRule.index?, indexInForce, index?, hpattern, hline]
    | message => cases hmessage : s.messageGroup <;>
        simp [ExtractionRule.index?, indexInForce, index?, hpattern, hmessage]
    | column | severity | code =>
        simp [ExtractionRule.index?, indexInForce, index?, hpattern]

/-- The rule under a pattern of the user is the same for all linters. -/
theorem rule_of_pattern {pattern : String} {r : ExtractionRule}
    (hpattern : s.pattern = some pattern)
    (other : Linter) : s.rule l = .ok r ↔ s.rule other = .ok r := by
  simp only [rule, hpattern]
  cases s.lineGroup with
  | none => exact iff_of_false (by simp) (by simp)
  | some line =>
      cases s.messageGroup with
      | none => exact iff_of_false (by simp) (by simp)
      | some message => exact Iff.rfl

/-! ## The first objection -/

/-- The fault that a check finds. -/
def finding (s : ProfileSettings) (l : Linter) : Check → Option ConfigFault
  | .container => if s.containerName.isNone then some (.missingContainer l) else none
  | .command => if (s.arguments l).isEmpty then some (.emptyCommand l) else none
  | .given field =>
    if s.pattern.isSome && (s.index? field).isNone then some (.missingGroup l field) else none
  | .pattern =>
    match Pattern.compile (s.patternInForce l) with
    | .error fault => some (.invalidPattern (s.patternInForce l) fault)
    | .ok _ => none
  | .range field =>
    match Pattern.compile (s.patternInForce l), s.indexInForce l field with
    | .ok pattern, some index =>
      if pattern.captures < index.toNat then
        some (.groupOutOfRange field index.toNat pattern.captures)
      else none
    | _, _ => none

theorem containerName_eq_none_iff : s.containerName = none ↔
    ∀ text, s.container = some text → ∀ c ∈ text.toList, Text.isBlank c = true := by
  have hempty : ∀ text : String, (trimmed text).isEmpty = true ↔
      ∀ c ∈ text.toList, Text.isBlank c = true := by
    intro text
    rw [← Text.trim_eq_nil_iff, trimmed]
    simp
  cases hcontainer : s.container with
  | none => simp [containerName, hcontainer]
  | some text => simp [containerName, hcontainer, ← hempty]

/-- A check objects to what it finds. -/
theorem finding_eq_some_iff : s.finding l check = some fault ↔ s.Objects l check fault := by
  constructor
  · intro h
    cases check with
    | container =>
        simp only [finding, Option.isNone_iff_eq_none, Option.ite_none_right_eq_some,
          Option.some.injEq] at h
        obtain ⟨hnone, rfl⟩ := h
        cases hcontainer : s.container with
        | none => exact .absent hcontainer
        | some text =>
          exact .blank text hcontainer (containerName_eq_none_iff.mp hnone text hcontainer)
    | command =>
        simp only [finding, List.isEmpty_iff, Option.ite_none_right_eq_some,
          Option.some.injEq] at h
        obtain ⟨hnil, rfl⟩ := h
        exact .empty (hnil ▸ s.command_arguments l)
    | given field =>
        simp only [finding, Bool.and_eq_true, Option.isNone_iff_eq_none,
          Option.ite_none_right_eq_some, Option.some.injEq] at h
        obtain ⟨⟨hpattern, hnone⟩, rfl⟩ := h
        obtain ⟨pattern, hpattern⟩ := Option.isSome_iff_exists.mp hpattern
        exact .missing field pattern hpattern hnone
    | pattern =>
        simp only [finding] at h
        split at h
        · rename_i fault hfault
          cases h
          exact .invalid fault hfault
        · cases h
    | range field =>
        simp only [finding] at h
        split at h
        · rename_i pattern index hpattern hindex
          simp only [Option.ite_none_right_eq_some, Option.some.injEq] at h
          obtain ⟨hlt, rfl⟩ := h
          exact .beyond field index pattern hpattern hindex hlt
        · cases h
  · intro h
    cases h with
    | absent hnone =>
        have hname : s.containerName = none :=
          containerName_eq_none_iff.mpr fun text htext => by simp [hnone] at htext
        simp [finding, hname]
    | blank text htext hblank =>
        have hname : s.containerName = none :=
          containerName_eq_none_iff.mpr fun other hother => by
            cases htext.symm.trans hother
            exact hblank
        simp [finding, hname]
    | empty hcommand => simp [finding, ← hcommand.eq_arguments]
    | missing field pattern hpattern hnone => simp [finding, hpattern, hnone]
    | invalid fault hfault => simp [finding, hfault]
    | beyond field index pattern hpattern hindex hlt => simp [finding, hpattern, hindex, hlt]

theorem finding_eq_none_iff : s.finding l check = none ↔ ∀ fault, ¬ s.Objects l check fault := by
  rw [Option.eq_none_iff_forall_ne_some]
  exact forall_congr' fun fault => not_congr finding_eq_some_iff

/-! ## What comes of the checks -/

/-- Without a pattern of the user no group is missing, and with one the line group comes first. -/
theorem rule_cases (s : ProfileSettings) (l : Linter) :
    (∃ fault, s.rule l = .error fault ∧
      [Check.given .line, .given .message].findSome? (s.finding l) = some fault) ∨
    ∃ r, s.rule l = .ok r ∧
      [Check.given .line, .given .message].findSome? (s.finding l) = none := by
  cases hpattern : s.pattern with
  | none =>
      have hrule : ∃ r, s.rule l = .ok r := by
        simp only [rule, hpattern]
        exact ⟨_, rfl⟩
      exact .inr (hrule.imp fun r hr => ⟨hr, by simp [finding, hpattern]⟩)
  | some pattern =>
      cases hline : s.lineGroup with
      | none =>
          exact .inl ⟨.missingGroup l .line, by simp [rule, hpattern, hline],
            by simp [finding, index?, hpattern, hline]⟩
      | some line =>
          cases hmessage : s.messageGroup with
          | none =>
              exact .inl ⟨.missingGroup l .message, by simp [rule, hpattern, hline, hmessage],
                by simp [finding, index?, hpattern, hline, hmessage]⟩
          | some message =>
              have hrule : ∃ r, s.rule l = .ok r := by
                simp only [rule, hpattern, hline, hmessage]
                exact ⟨_, rfl⟩
              exact .inr (hrule.imp fun r hr =>
                ⟨hr, by simp [finding, index?, hpattern, hline, hmessage]⟩)

/-- The part that reads output is refused for the first of its checks that finds something, and
made if none does. -/
theorem extractor_cases (s : ProfileSettings) (l : Linter) :
    (∃ fault, s.extractor l = .error fault ∧
      Check.ofExtractor.findSome? (s.finding l) = some fault) ∨
    ∃ e, s.extractor l = .ok e ∧ Check.ofExtractor.findSome? (s.finding l) = none ∧
      e.rule.pattern = s.patternInForce l ∧
      Pattern.compile (s.patternInForce l) = .ok e.pattern ∧
      ∀ field, e.rule.index? field = s.indexInForce l field := by
  have hchecks : Check.ofExtractor.findSome? (s.finding l) =
      ([Check.given .line, .given .message].findSome? (s.finding l)).or
        ((s.finding l .pattern).or
          ((GroupField.inOrder.map Check.range).findSome? (s.finding l))) := by
    have hpattern :
        (Check.pattern :: GroupField.inOrder.map Check.range).findSome? (s.finding l) =
        (s.finding l .pattern).or
          ((GroupField.inOrder.map Check.range).findSome? (s.finding l)) := by
      rw [List.findSome?_cons]
      cases s.finding l .pattern <;> rfl
    rw [← hpattern, ← List.findSome?_append]
    rfl
  rw [hchecks]
  rcases s.rule_cases l with ⟨fault, hrule, hfound⟩ | ⟨r, hrule, hnothing⟩
  · exact .inl ⟨fault, by rw [extractor, hrule]; rfl, by rw [hfound]; rfl⟩
  · obtain ⟨hsource, hindex⟩ := rule_inForce hrule
    have hextractor : s.extractor l = r.compile := by
      rw [extractor, hrule]
      rfl
    rw [hextractor, hnothing]
    cases hpattern : Pattern.compile (s.patternInForce l) with
    | error fault =>
        refine .inl ⟨.invalidPattern (s.patternInForce l) fault, ?_, by simp [finding, hpattern]⟩
        rw [ExtractionRule.compile, hsource, hpattern]
    | ok p =>
        have hranges : ∀ field,
            s.finding l (.range field) = r.beyond? p.captures field := by
          intro field
          rw [ExtractionRule.beyond?, hindex]
          cases hinForce : s.indexInForce l field <;> simp [finding, hpattern, hinForce]
        have hnone : s.finding l .pattern = none := by simp [finding, hpattern]
        have hlater : (GroupField.inOrder.map Check.range).findSome? (s.finding l) =
            GroupField.inOrder.findSome? (r.beyond? p.captures) := by
          rw [List.findSome?_map]
          exact congrArg (GroupField.inOrder.findSome? ·) (funext hranges)
        rw [ExtractionRule.compile_of_pattern (hsource ▸ hpattern), hnone, hlater]
        cases GroupField.inOrder.findSome? (r.beyond? p.captures) with
        | some fault => exact .inl ⟨fault, rfl, rfl⟩
        | none => exact .inr ⟨⟨r, p⟩, rfl, rfl, hsource, rfl, hindex⟩

/-- The settings are refused for the first check that finds something, and resolved if none
does. -/
theorem resolve_cases (s : ProfileSettings) (l : Linter) :
    (∃ fault, s.resolve l = .error fault ∧
      Check.inOrder.findSome? (s.finding l) = some fault) ∨
    ∃ p, s.resolve l = .ok p ∧ Check.inOrder.findSome? (s.finding l) = none ∧
      s.extractor l = .ok p.extractor ∧ s.Resolved l p := by
  rw [show Check.inOrder = .container :: .command :: Check.ofExtractor from rfl,
    List.findSome?_cons, List.findSome?_cons]
  cases hname : s.containerName with
  | none =>
      exact .inl ⟨.missingContainer l, by simp [resolve, hname], by simp [finding, hname]⟩
  | some container =>
      have hcontainer : s.finding l .container = none := by simp [finding, hname]
      rw [hcontainer]
      by_cases hnil : s.arguments l = []
      · exact .inl ⟨.emptyCommand l, by simp [resolve, hname, hnil], by simp [finding, hnil]⟩
      · have hcommand : s.finding l .command = none := by simp [finding, hnil]
        have hresolve : s.resolve l = s.extractor l >>= fun e =>
            .ok ⟨l, container, s.arguments l, e, s.reportExitStatus.getD true⟩ := by
          simp only [resolve, hname, List.isEmpty_iff, hnil, if_false]
        rw [hresolve, hcommand]
        rcases s.extractor_cases l with
          ⟨fault, hfault, hfound⟩ | ⟨e, he, hnothing, hsource, hpattern, hindex⟩
        · exact .inl ⟨fault, by rw [hfault]; rfl, hfound⟩
        · refine .inr ⟨_, by rw [he]; rfl, hnothing, he, rfl, ?_, s.command_arguments l, hsource,
            hpattern, hindex, rfl⟩
          simp only [containerName] at hname
          split at hname
          · rename_i text htext
            refine ⟨text, htext, ?_⟩
            split at hname
            · cases hname
            · cases hname
              rw [← Text.trim_eq, trimmed, String.toList_ofList]
          · cases hname

/-- The settings of a profile determine what it consists of. -/
theorem Resolved.unique (hp : s.Resolved l p) (hq : s.Resolved l q) : p = q := by
  obtain ⟨text, htext, hcontainer⟩ := hp.container
  obtain ⟨other, hother, hcontainer'⟩ := hq.container
  cases htext.symm.trans hother
  have hrule : p.extractor.rule = q.extractor.rule :=
    ExtractionRule.eq_of_index (hp.source.trans hq.source.symm) fun field =>
      (hp.index field).trans (hq.index field).symm
  have hpattern : p.extractor.pattern = q.extractor.pattern :=
    Except.ok.inj (hp.pattern.symm.trans hq.pattern)
  have hname : p.container = q.container :=
    String.toList_injective (hcontainer.trans hcontainer'.symm)
  have hcommand : p.command = q.command :=
    hp.command.eq_arguments.trans hq.command.eq_arguments.symm
  obtain ⟨linter, container, command, ⟨rule, pattern⟩, report⟩ := p
  obtain ⟨linter', container', command', ⟨rule', pattern'⟩, report'⟩ := q
  cases hp.linter.trans hq.linter.symm
  cases hp.reportExitStatus.trans hq.reportExitStatus.symm
  cases hrule
  cases hpattern
  cases hname
  cases hcommand
  rfl

/-- A group that is named exists in every match. -/
theorem index_le_of_extractor {e : Extractor} (h : s.extractor l = .ok e) {field : GroupField}
    {index : UInt64} (hindex : e.rule.index? field = some index) :
    index.toNat ≤ e.pattern.captures := by
  rcases s.extractor_cases l with ⟨fault, hfault, -⟩ | ⟨f, hf, hnothing, -, hpattern, hinForce⟩
  · cases h.symm.trans hfault
  · cases h.symm.trans hf
    have hmem : Check.range field ∈ Check.ofExtractor := by
      cases field <;> decide
    have hnone := List.findSome?_eq_none_iff.mp hnothing _ hmem
    simp only [finding, hpattern, ← hinForce, hindex, ite_eq_right_iff] at hnone
    exact Nat.le_of_not_lt fun hlt => by simpa using hnone hlt

end ProfileSettings

/-- Every match has the whole text and all groups of the pattern, those included that took no part
in it. -/
theorem length_groups {p : Pattern} {text : String} {m : Match} (h : m ∈ p.all text) :
    m.groups.length = p.captures + 1 := by
  obtain ⟨slots, -, rfl⟩ := List.mem_map.mp h
  simp [Pattern.Slots.toMatch]

/-- The settings of a profile are refused for what the first check objects to that objects to
anything; without an objection they make the profile that consists of what is in force, and no
other. Under a pattern of the user the rule does not hang on the linter. Each group that is named
for a part of a diagnostic, in a profile or in the part of it that reads output, is a group of the
pattern, so that every match has it. -/
theorem resolve_first_objection (s : ProfileSettings) (l : Linter) :
    (∀ fault, s.resolve l = .error fault ↔ s.FirstObjection l fault) ∧
    (∀ p, s.resolve l = .ok p ↔
      (∀ check ∈ Check.inOrder, ∀ fault, ¬ s.Objects l check fault) ∧ s.Resolved l p) ∧
    (∀ pattern, s.pattern = some pattern → ∀ other r, s.rule l = .ok r ↔ s.rule other = .ok r) ∧
    (∀ p, s.resolve l = .ok p → s.extractor l = .ok p.extractor) ∧
    ∀ e, s.extractor l = .ok e → ∀ field index, e.rule.index? field = some index →
      index.toNat ≤ e.pattern.captures ∧
        ∀ text, ∀ m ∈ e.pattern.all text, index.toNat < m.groups.length := by
  have hfirst : ∀ fault, Check.inOrder.findSome? (s.finding l) = some fault ↔
      s.FirstObjection l fault := by
    intro fault
    simp only [List.findSome?_eq_some_iff, ProfileSettings.FirstObjection,
      ProfileSettings.finding_eq_some_iff, ProfileSettings.finding_eq_none_iff]
  have hnone : Check.inOrder.findSome? (s.finding l) = none ↔
      ∀ check ∈ Check.inOrder, ∀ fault, ¬ s.Objects l check fault := by
    simp only [List.findSome?_eq_none_iff, ProfileSettings.finding_eq_none_iff]
  refine ⟨?_, ?_, fun pattern hpattern other r => ProfileSettings.rule_of_pattern hpattern other,
    ?_, ?_⟩
  · intro fault
    rw [← hfirst]
    rcases s.resolve_cases l with ⟨found, hresolve, hfound⟩ | ⟨p, hresolve, hnothing, -⟩
    · simp [hresolve, hfound]
    · simp [hresolve, hnothing]
  · intro p
    rw [← hnone]
    rcases s.resolve_cases l with ⟨found, hresolve, hfound⟩ | ⟨q, hresolve, hnothing, -, hq⟩
    · simp [hresolve, hfound]
    · rw [hresolve, hnothing]
      constructor
      · rintro h
        cases h
        exact ⟨rfl, hq⟩
      · rintro ⟨-, hp⟩
        rw [hp.unique hq]
  · intro p hp
    rcases s.resolve_cases l with ⟨found, hresolve, -⟩ | ⟨q, hresolve, -, hextractor, -⟩
    · cases hp.symm.trans hresolve
    · cases hp.symm.trans hresolve
      exact hextractor
  · intro e he field index hindex
    have hle := ProfileSettings.index_le_of_extractor he hindex
    refine ⟨hle, fun text m hm => ?_⟩
    rw [length_groups hm]
    omega

end ContainerLint
