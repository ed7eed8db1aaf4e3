import ContainerLint.Profile
import ContainerLint.Proofs.Pattern.LineByLine
import ContainerLint.Proofs.Text.Figures
import Mathlib.Logic.Function.Basic

/-!
# Extraction line by line

A diagnostic is made of what the groups of a match hold, so with a linewise pattern the
diagnostics of a text are those of its lines, each taken by itself (`Extractor.extract_linewise`),
and it does not matter how the lines are ended (`Extractor.extract_lines`). For a report with one
record a line there is one diagnostic for each record (`Extractor.extract_report`).
-/

namespace ContainerLint

open Pattern

/-- A rule is made ready for use if its pattern means a node that is small enough and has all
groups that the rule names. -/
theorem ExtractionRule.compile_of_meaning {r : ExtractionRule} {n : Node}
    (hmeaning : (do (← Ast.read r.pattern.toList).meaning : Except SyntaxFault Node) = .ok n)
    (hsmall : n.footprint ≤ footprintLimit)
    (hgroups : ∀ g ∈ r.groups, g.2.toNat ≤ n.captures) :
    r.compile = .ok ⟨r, ⟨n.program, n.captures⟩⟩ := by
  have hnone : (r.groups.find? fun g => n.captures < g.2.toNat) = none :=
    List.find?_eq_none.mpr fun g hg => by simpa using hgroups g hg
  rw [compile, Pattern.compile_of_meaning hmeaning hsmall]
  simp only [hnone]

/-- Without changes the extractor of a profile is that of the built-in rule. -/
theorem ProfileSettings.extractor_of_meaning {l : Linter} {n : Node} {captures : Nat}
    (hmeaning : (do (← Ast.read l.rule.pattern.toList).meaning : Except SyntaxFault Node) = .ok n)
    (hsmall : n.footprint ≤ footprintLimit) (hcaptures : n.captures = captures)
    (hgroups : ∀ g ∈ l.rule.groups, g.2.toNat ≤ captures) :
    unchanged.extractor l = .ok ⟨l.rule, ⟨n.program, captures⟩⟩ := by
  subst hcaptures
  exact ExtractionRule.compile_of_meaning hmeaning hsmall hgroups

namespace Extractor

variable {e : Extractor} {n : Node} {captures : Nat}

/-- A diagnostic says nothing of a match but what its groups hold. -/
theorem diagnostic_factors (e : Extractor) :
    Function.FactorsThrough e.diagnostic Match.text? := by
  intro m m' h
  have hgroup : group m = group m' := funext fun index => congrFun h index.toNat
  have hnumber : numberIn m = numberIn m' :=
    funext fun index => by rw [numberIn, numberIn, hgroup]
  simp only [diagnostic, hgroup, hnumber]

/-- With a linewise pattern the diagnostics of a text are those of its lines. -/
theorem extract_linewise (h : n.Linewise) (hpattern : e.pattern = ⟨n.program, captures⟩)
    (text : String) :
    e.extract text =
      (Text.lines text.toList).filterMap fun line =>
        (n.onLine captures line).map e.diagnostic := by
  obtain ⟨ofTexts, hfactors⟩ : ∃ ofTexts : (Nat → Option String) → Diagnostic,
      ∀ m : Match, ofTexts m.text? = e.diagnostic m :=
    ⟨_, e.diagnostic_factors.extend_apply fun _ => .wholeLine 0 .error ""⟩
  have htexts := congrArg (List.map ofTexts) (h.texts_all captures text)
  rw [List.map_map, List.map_filterMap] at htexts
  rw [extract, hpattern]
  simpa only [Function.comp_def, Option.map_map, hfactors] using htexts

/-- In a text of lines that are all ended the diagnostics are those of the lines, whatever ends
them. -/
theorem extract_lines (h : n.Linewise) (hpattern : e.pattern = ⟨n.program, captures⟩)
    (hempty : n.onLine captures [] = none) (lines : List (List Char × Text.LineEnd))
    (hlines : ∀ l ∈ lines, ∀ c ∈ l.1, Text.isBreak c = false) :
    e.extract (String.ofList (lines.flatMap fun l => l.1 ++ l.2.chars)) =
      lines.filterMap fun l => (n.onLine captures l.1).map e.diagnostic := by
  have hall := Text.lines_ended_append hlines []
  rw [List.append_nil] at hall
  rw [extract_linewise h hpattern, String.toList_ofList, hall, List.filterMap_append,
    List.filterMap_map]
  simp [Text.lines, hempty]

/-- If every record is printed in a line in which something is found, one diagnostic is made of
each, in order. -/
theorem extract_report {α : Type} (h : n.Linewise) (hpattern : e.pattern = ⟨n.program, captures⟩)
    (hempty : n.onLine captures [] = none) {printed : α → List Char} {found : α → Match}
    (hline : ∀ a, ∀ c ∈ printed a, Text.isBreak c = false)
    (hfound : ∀ a, n.onLine captures (printed a) = some (found a)) (records : List α) :
    e.extract (String.ofList (records.flatMap fun a => printed a ++ ['\n'])) =
      records.map fun a => e.diagnostic (found a) := by
  have hlines := extract_lines h hpattern hempty (records.map fun a => (printed a, .feed))
    (by simpa using fun a _ => hline a)
  rw [List.flatMap_map, List.filterMap_map] at hlines
  refine hlines.trans ?_
  simp [hfound]

/-! ## Records with numbers -/

/-- A number of 32 bits is read from a group that holds it as it is printed. -/
theorem numberIn_toDigits {m : Match} {index : UInt64} {number : UInt32}
    (h : m.text? index.toNat = some (String.ofList (Nat.toDigits 10 number.toNat))) :
    numberIn m index = some number := by
  rw [numberIn, group, h, Option.bind_some, String.toList_ofList, Text.word32?_toDigits]

/-- What is made of a match whose groups hold a line, a column, a message and a code. -/
theorem diagnostic_of_texts {m : Match} {pattern : String}
    {lineGroup columnGroup messageGroup codeGroup : UInt64} {line column : UInt32}
    {message code : String}
    (hrule : e.rule =
      ⟨pattern, lineGroup, some columnGroup, none, messageGroup, some codeGroup⟩)
    (hne : line ≠ 0)
    (hline : m.text? lineGroup.toNat = some (String.ofList (Nat.toDigits 10 line.toNat)))
    (hcolumn : m.text? columnGroup.toNat = some (String.ofList (Nat.toDigits 10 column.toNat)))
    (hmessage : m.text? messageGroup.toNat = some message)
    (hcode : m.text? codeGroup.toNat = some code) :
    e.diagnostic m = ⟨some (line - 1), column, column, .error, message, some code⟩ := by
  simp [diagnostic, hrule, numberIn_toDigits hline, numberIn_toDigits hcolumn, group, hmessage,
    hcode, hne, Severity.ofToken]

end Extractor

end ContainerLint
