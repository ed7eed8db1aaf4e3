import ContainerLint.ConfigFault
import ContainerLint.Diagnostic
import ContainerLint.Pattern.Match
import ContainerLint.Text.Word32

/-!
# Extraction

`ExtractionRule.compile` checks a rule once, so that extraction itself cannot fail:
`Extractor.extract` gives one diagnostic for each match of the pattern, in order.
-/

namespace ContainerLint

/-- A rule whose pattern is ready for use and whose groups all exist. -/
structure Extractor where
  rule : ExtractionRule
  pattern : Pattern

namespace ExtractionRule

/-- The groups that a rule names, in the order in which they are checked. -/
def groups (r : ExtractionRule) : List (GroupField × UInt64) :=
  [(.line, some r.lineGroup), (.column, r.columnGroup), (.severity, r.severityGroup),
    (.message, some r.messageGroup), (.code, r.codeGroup)].filterMap
      fun g => g.2.map fun index => (g.1, index)

/-- Makes a rule ready for use. -/
def compile (r : ExtractionRule) : Except ConfigFault Extractor :=
  match Pattern.compile r.pattern with
  | .error fault => .error (.invalidPattern r.pattern fault)
  | .ok pattern =>
    match r.groups.find? fun g => pattern.captures < g.2.toNat with
    | some (field, index) => .error (.groupOutOfRange field index.toNat pattern.captures)
    | none => .ok ⟨r, pattern⟩

/-- The names of the fields of a rule, in order. -/
def checks : List (String × (Value → Decoded Unit)) :=
  [("pattern", Decode.check Decode.text),
    ("lineGroup", Decode.check Decode.index),
    ("columnGroup", Decode.check (Decode.option Decode.index)),
    ("severityGroup", Decode.check (Decode.option Decode.index)),
    ("messageGroup", Decode.check Decode.index),
    ("codeGroup", Decode.check (Decode.option Decode.index))]

/-- Reads a rule. -/
def decode : Value → Decoded ExtractionRule :=
  Decode.record "ExtractionConfig" checks fun fields => do
    let pattern ← fields.required 0 "pattern" Decode.text
    let lineGroup ← fields.required 1 "lineGroup" Decode.index
    let columnGroup ← fields.optional 2 "columnGroup" Decode.index
    let severityGroup ← fields.optional 3 "severityGroup" Decode.index
    let messageGroup ← fields.required 4 "messageGroup" Decode.index
    let codeGroup ← fields.optional 5 "codeGroup" Decode.index
    .ok ⟨pattern, lineGroup, columnGroup, severityGroup, messageGroup, codeGroup⟩

/-- The member for a group that may be absent. -/
def groupMember (name : String) : Option UInt64 → List (String × Value)
  | some index => [(name, .int index.toNat)]
  | none => []

/-- The rule as data; groups that are absent are left out. -/
def toValue (r : ExtractionRule) : Value :=
  .obj ([("pattern", .str r.pattern), ("lineGroup", .int r.lineGroup.toNat)] ++
    groupMember "columnGroup" r.columnGroup ++
    groupMember "severityGroup" r.severityGroup ++
    [("messageGroup", .int r.messageGroup.toNat)] ++
    groupMember "codeGroup" r.codeGroup)

end ExtractionRule

namespace Extractor

/-- The text that a match has in a group. -/
def group (m : Match) (index : UInt64) : Option String := m.text? index.toNat

/-- The number that a match has in a group. -/
def numberIn (m : Match) (index : UInt64) : Option UInt32 :=
  (group m index).bind fun text => Text.word32? text.toList

/-- The diagnostic of a match. Lines are printed from one on; line zero does not count. -/
def diagnostic (e : Extractor) (m : Match) : Diagnostic :=
  let line := (numberIn m e.rule.lineGroup).bind fun n => if n = 0 then none else some (n - 1)
  let column := e.rule.columnGroup.bind (numberIn m)
  { line
    start := column.getD 0
    stop := column.getD wholeLineEnd
    severity := .ofToken (e.rule.severityGroup.bind (group m))
    message := (group m e.rule.messageGroup).getD ""
    code := e.rule.codeGroup.bind (group m) }

/-- The diagnostics of a text, one for each match, in order. -/
def extract (e : Extractor) (text : String) : List Diagnostic :=
  (e.pattern.all text).map e.diagnostic

end Extractor

end ContainerLint
