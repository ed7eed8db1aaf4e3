import ContainerLint.Proofs.Linter.Perlcritic
import ContainerLint.Proofs.Linter.Records
import ContainerLint.Proofs.Pattern.Contents

/-!
# Built-in rules

The patterns of all linters with their meaning fixed (`Linter.node`). In each of them the groups
of the message and of the code pass the test for groups that always hold some text: a message
without line ends, a code without blanks. So a profile that keeps the built-in rule makes clean
diagnostics of every text (`Linter.extract_clean`), also of one in which a match goes over the end
of a line.
-/

namespace ContainerLint

open Pattern

/-! ## The patterns -/

namespace Linter

/-- The pattern of perl: a message, and where the script stops. -/
def perlNode : Node :=
  .cat (.look (.lineStart true)) (.cat (.capture 1 (.run lineChars))
    (.cat (.literal " at - line ".toList) (.capture 2 (.run Text.decimals))))

/-- The place at which php stops, which it calls by one of two names. -/
def phpPlaceNode : Node :=
  .cat (.literal " in ".toList)
    (.cat (.alt (.literal "-".toList) (.literal "Standard input code".toList))
      (.cat (.literal " on line ".toList) (.capture 2 (.run Text.decimals))))

/-- The pattern of php. The blanks in front of the message may go over the end of a line. -/
def phpNode : Node :=
  .cat (.look (.lineStart true)) (.cat (.rep (.literal "PHP ".toList) ⟨0, some 1⟩ true)
    (.cat (.alt (.literal "Parse".toList) (.literal "Fatal".toList))
      (.cat (.literal " error:".toList) (.cat (.run ⟨Text.blankRanges⟩)
        (.cat (.capture 1 (.run lineChars)) phpPlaceNode)))))

/-- The built-in pattern of a linter, with its meaning fixed. -/
def node : Linter → Node
  | .perl => perlNode
  | .perlcritic => Perlcritic.perlcriticNode
  | .flake8 => Flake8.node
  | .rubocop => Rubocop.node
  | .php => phpNode

/-- The built-in extractor of a linter. -/
def extractor (l : Linter) : Extractor := ⟨l.rule, ⟨l.node.program, l.node.captures⟩⟩

theorem extractor_unchanged (l : Linter) :
    ProfileSettings.unchanged.extractor l = .ok l.extractor := by
  cases l with
  | perl | php =>
      exact ProfileSettings.extractor_of_meaning (by decide +kernel) (by decide +kernel) rfl
        (by decide)
  | perlcritic => exact Perlcritic.extractor_perlcritic
  | flake8 => exact Flake8.extractor_eq
  | rubocop => exact Rubocop.extractor_eq

theorem numbered_node (l : Linter) : 0 ∉ l.node.groups := by cases l <;> decide

theorem productive_node (l : Linter) : l.node.productive = true := by cases l <;> decide

end Linter

/-! ## The groups -/

/-- The characters that end a line. -/
def breakChars : CharSet := ⟨[(10, 10), (13, 13)]⟩

/-- The blanks. -/
def blankChars : CharSet := ⟨Text.blankRanges⟩

theorem breakChars_contains (c : Char) : breakChars.contains c = Text.isBreak c := by
  have hfeed : c = '\n' ↔ c.toNat = 10 := Char.toNat_inj.symm
  have hreturn : c = '\r' ↔ c.toNat = 13 := Char.toNat_inj.symm
  simp only [CharSet.contains, breakChars, CharSet.inRanges, Text.isBreak, hfeed, hreturn]
  grind

theorem blankChars_contains (c : Char) : blankChars.contains c = Text.isBlank c := rfl

namespace Linter

/-- The group exists, and it always holds some text without characters of the set. -/
structure Fills (l : Linter) (avoided : CharSet) (g : Nat) : Prop where
  fills : l.node.fills avoided g = true
  ne_zero : g ≠ 0
  le_captures : g ≤ l.node.captures

theorem fills_message (l : Linter) : l.Fills breakChars l.rule.messageGroup.toNat := by
  cases l <;> exact ⟨by decide, by decide, by decide⟩

theorem fills_code (l : Linter) : ∀ g ∈ l.rule.codeGroup, l.Fills blankChars g.toNat := by
  intro g hg
  cases l with
  | perl | php => cases hg
  | perlcritic | flake8 | rubocop =>
      cases hg
      exact ⟨by decide +kernel, by decide, by decide⟩

/-- No group of a built-in rule holds a severity. -/
theorem severityGroup_rule (l : Linter) : l.rule.severityGroup = none := by cases l <;> rfl

end Linter

/-! ## Clean diagnostics -/

/-- The diagnostic is an error with a message in one line. If codes are wanted it has one, which
is a word without blanks. -/
structure Diagnostic.Clean (coded : Bool) (d : Diagnostic) : Prop where
  severity : d.severity = .error
  message_ne_empty : d.message ≠ ""
  message_line : ∀ c ∈ d.message.toList, Text.isBreak c = false
  isSome_code : d.code.isSome = coded
  code_word : ∀ code ∈ d.code, code ≠ "" ∧ ∀ c ∈ code.toList, Text.isBlank c = false

/-- The pattern and the groups are not changed. -/
structure ProfileSettings.KeepsRule (s : ProfileSettings) : Prop where
  pattern : s.pattern = none
  lineGroup : s.lineGroup = none
  columnGroup : s.columnGroup = none
  severityGroup : s.severityGroup = none
  messageGroup : s.messageGroup = none
  codeGroup : s.codeGroup = none

/-- If the rule is not changed, whatever else is, the extractor is the built-in one. -/
theorem ProfileSettings.KeepsRule.extractor_eq {s : ProfileSettings} (h : s.KeepsRule)
    (l : Linter) : s.extractor l = .ok l.extractor := by
  have hrule : s.rule l = unchanged.rule l := by
    simp only [rule, h.pattern, h.lineGroup, h.columnGroup, h.severityGroup, h.messageGroup,
      h.codeGroup, unchanged]
  rw [extractor, hrule]
  exact l.extractor_unchanged

namespace Linter

variable {l : Linter} {avoided : CharSet} {m : Match} {text : String}

/-- A group that passes the test holds some text in every match. -/
theorem Fills.exists_text? {g : Nat} (h : l.Fills avoided g)
    (hm : m ∈ l.extractor.pattern.all text) :
    ∃ part, m.text? g = some part ∧ part ≠ "" ∧ ∀ c ∈ part.toList, avoided.contains c = false :=
  Node.exists_text?_of_fills l.numbered_node h.fills h.ne_zero h.le_captures hm

/-- The diagnostic of a match is clean. -/
theorem clean_diagnostic (hm : m ∈ l.extractor.pattern.all text) :
    (l.extractor.diagnostic m).Clean l.rule.codeGroup.isSome := by
  obtain ⟨message, hmessage, hne, hline⟩ := l.fills_message.exists_text? hm
  simp only [breakChars_contains] at hline
  have hmessage : (l.extractor.diagnostic m).message = message := by
    show (Extractor.group m l.rule.messageGroup).getD "" = message
    rw [Extractor.group, hmessage]
    rfl
  have hseverity : (l.extractor.diagnostic m).severity = .error := by
    show Severity.ofToken (l.rule.severityGroup.bind (Extractor.group m)) = .error
    rw [l.severityGroup_rule]
    rfl
  have hcode : (l.extractor.diagnostic m).code = l.rule.codeGroup.bind (Extractor.group m) := rfl
  cases hg : l.rule.codeGroup with
  | none =>
      rw [hg, Option.bind_none] at hcode
      exact ⟨hseverity, hmessage ▸ hne, hmessage ▸ hline, by simp [hcode], by simp [hcode]⟩
  | some g =>
      obtain ⟨code, hheld, hword⟩ := (l.fills_code g hg).exists_text? hm
      rw [hg, Option.bind_some, Extractor.group, hheld] at hcode
      simp only [blankChars_contains] at hword
      exact ⟨hseverity, hmessage ▸ hne, hmessage ▸ hline, by simp [hcode],
        by simpa [hcode] using hword⟩

/-- All diagnostics of a text are clean. -/
theorem extract_clean (text : String) :
    ∀ d ∈ l.extractor.extract text, d.Clean l.rule.codeGroup.isSome := by
  intro d hd
  obtain ⟨m, hm, rfl⟩ := List.mem_map.mp hd
  exact clean_diagnostic hm

/-- A text has a match exactly if a way leads through the pattern from one of its places. -/
theorem all_ne_nil_iff (text : String) :
    l.extractor.pattern.all text ≠ [] ↔ l.node.OccursIn text.toList :=
  Node.all_ne_nil_iff l.numbered_node l.productive_node l.node.captures text

end Linter

end ContainerLint
