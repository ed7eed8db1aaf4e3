import ContainerLint.Docker.MachineEnv
import ContainerLint.Proofs.Pattern.Runs

/-!
# Variables that a docker machine prints

A docker machine prints each variable in a line of its own, `export NAME="VALUE"`, and between
these lines stand others, such as comments. `machineVariables_text` says that the variables are
read back from what it prints, all of them and nothing else, in order. A value may hold quotes and
equals signs: it goes up to the last quote of its line (`ways_valueNode`), however the line is
ended.
-/

namespace ContainerLint

open Pattern

/-- A variable with a name of word characters. Its value stays in one line. -/
structure ExportedVariable where
  name : String
  value : String
  name_ne_empty : name ≠ ""
  isWord_name : ∀ c ∈ name.toList, Text.isWord c = true
  isBreak_value : ∀ c ∈ value.toList, Text.isBreak c = false

/-- The name and the value. -/
def ExportedVariable.pair (v : ExportedVariable) : String × String := (v.name, v.value)

/-- The command that sets a variable. -/
def exportCommand : List Char := "export ".toList

/-- The command that gives a variable its value. -/
def ExportedVariable.printed (v : ExportedVariable) : List Char :=
  exportCommand ++ (v.name.toList ++ (['=', '"'] ++ (v.value.toList ++ ['"'])))

/-- A line that a docker machine prints. -/
inductive MachineLine
  | setting (v : ExportedVariable)
  | other (text : List Char) (not_export : ¬ exportCommand <+: text)
    (unbroken : ∀ c ∈ text, Text.isBreak c = false)

namespace MachineLine

/-- The text of a line, without its end. -/
def text : MachineLine → List Char
  | .setting v => v.printed
  | .other text _ _ => text

/-- The variable that a line sets, if it sets one. -/
def exported? : MachineLine → Option ExportedVariable
  | .setting v => some v
  | .other _ _ _ => none

end MachineLine

/-- What a docker machine prints: lines that are ended, and maybe one more. -/
structure MachineOutput where
  ended : List (MachineLine × Text.LineEnd)
  last : Option MachineLine

namespace MachineOutput

/-- The lines. -/
def lines (o : MachineOutput) : List MachineLine := o.ended.map Prod.fst ++ o.last.toList

/-- The printed text. -/
def text (o : MachineOutput) : String :=
  String.ofList ((o.ended.flatMap fun l => l.1.text ++ l.2.chars) ++
    (o.last.map MachineLine.text).getD [])

/-- The variables that are set, in order. -/
def exports (o : MachineOutput) : List ExportedVariable := o.lines.filterMap MachineLine.exported?

end MachineOutput

/-! ## One line -/

namespace ExportPattern

/-- The value between quotes, which end the line. -/
def valueNode : Node :=
  .cat (.capture 2 (.star lineChars)) (.cat (.literal ['"']) (.look (.lineEnd true)))

/-- The pattern of a line that sets a variable, with its meaning fixed. -/
def node : Node :=
  .cat (.look (.lineStart true)) (.cat (.literal exportCommand)
    (.cat (.capture 1 (.run Text.wordChars)) (.cat (.literal ['=', '"']) valueNode)))

theorem footprint_node : node.footprint ≤ footprintLimit := by
  have hname := Node.footprint_capture_le 1 (Node.footprint_run_le Node.setFootprint_wordChars)
  have hrest := Node.footprint_cat_le hname
    (Nat.le_refl (Node.cat (.literal ['=', '"']) valueNode).footprint)
  exact Nat.le_trans (Node.footprint_after (Node.footprint_after hrest)) (by decide +kernel)

theorem exportPattern_eq : exportPattern = .ok ⟨node.program, 2⟩ :=
  Pattern.compile_of_meaning (n := node) (by decide +kernel) footprint_node

theorem node_linewise : node.Linewise where
  starts := ⟨_, rfl⟩
  inline := by decide
  productive := by decide
  takesText := by decide
  numbered := by decide

theorem isBreak_printed (v : ExportedVariable) : ∀ c ∈ v.printed, Text.isBreak c = false := by
  simp only [ExportedVariable.printed, List.forall_mem_append]
  exact ⟨Text.isBreak_of_all (by decide), fun c hc => Text.isBreak_of_isWord (v.isWord_name c hc),
    Text.isBreak_of_all (by decide), v.isBreak_value, Text.isBreak_of_all (by decide)⟩

theorem isBreak_text (l : MachineLine) : ∀ c ∈ l.text, Text.isBreak c = false := by
  cases l with
  | setting v => exact isBreak_printed v
  | other _ _ unbroken => exact unbroken

/-- A variable is found in its line. -/
theorem exists_onLine (v : ExportedVariable) : ∃ m, node.onLine 2 v.printed = some m ∧
    m.text? 1 = some v.name ∧ m.text? 2 = some v.value := by
  let start : Way := ⟨.start v.printed, [(0, .start v.printed)]⟩
  have hname : (start.forth exportCommand.length).place.rest = _ :=
    Way.rest_forth exportCommand rfl
  have hequals : Text.wordChars.contains '=' = false := by decide
  obtain ⟨atValue, hvalue, hpastName⟩ := Node.ways_fieldUpTo 1 '=' ['"'] valueNode hequals
    hname (by simpa using v.name_ne_empty) v.isWord_name
  have hunbroken : ∀ c ∈ v.value.toList ++ ['"'], Text.isBreak c = false :=
    List.forall_mem_append.mpr ⟨v.isBreak_value, Text.isBreak_of_all (by decide)⟩
  obtain ⟨stop, hstop, hpastValue⟩ := Node.ways_toLastChar 2 '"' hpastName.rest hunbroken
  have hways : node.ways start = [stop] := by
    rw [node, Node.ways_lineStart, Node.ways_literal exportCommand rfl, hvalue, valueNode, hstop]
  have hholds : stop.Holds [(2, v.value.toList), (1, v.name.toList)] :=
    hpastValue.holds hpastName.holds_singleton (by simp)
  obtain ⟨m, hm, htexts⟩ :=
    Node.exists_onLine_of_holds 2 (congrArg List.head? hways) hholds (by simp)
  simp only [List.forall_mem_cons, String.ofList_toList] at htexts
  exact ⟨m, hm, htexts.2.1, htexts.1⟩

/-- Nothing is found in a line that starts in another way. -/
theorem onLine_other {text : List Char} (h : ¬ exportCommand <+: text) :
    node.onLine 2 text = none := by
  refine Node.onLine_eq_none ?_ 2
  rw [node, Node.ways_lineStart]
  exact Node.ways_literal_of_not_prefix h

end ExportPattern

/-! ## All lines -/

/-- The name and the value that the groups of a match hold. -/
def exportedPair (texts : Nat → Option String) : String × String :=
  ((texts 1).getD "", (texts 2).getD "")

/-- Every match of the pattern sets a variable. -/
theorem machineVariables_of_pattern {p : Pattern} (h : exportPattern = .ok p) (output : String) :
    machineVariables output = ((p.all output).map Match.text?).map exportedPair := by
  -- The definition is opened apart from its argument, so that the pattern need not be compiled.
  generalize hbody : machineVariables = body
  delta machineVariables at hbody
  rw [← hbody, h, List.map_map]
  rfl

/-- The variables of a text are those of its lines, each taken by itself. -/
theorem machineVariables_eq (output : String) :
    machineVariables output = (Text.lines output.toList).filterMap fun line =>
      (ExportPattern.node.onLine 2 line).map fun m => exportedPair m.text? := by
  rw [machineVariables_of_pattern ExportPattern.exportPattern_eq,
    ExportPattern.node_linewise.texts_all 2 output, List.map_filterMap]
  simp only [Option.map_map, Function.comp_def]

/-- The lines of what a docker machine prints are found in its text. A line end at the end of the
text leaves an empty line. -/
theorem MachineOutput.lines_text (o : MachineOutput) :
    Text.lines o.text.toList =
      o.ended.map (fun l => l.1.text) ++ [(o.last.map MachineLine.text).getD []] := by
  have hended :
      ∀ l ∈ o.ended.map fun l => (l.1.text, l.2), ∀ c ∈ l.1, Text.isBreak c = false := by
    intro l hl
    obtain ⟨line, -, rfl⟩ := List.mem_map.mp hl
    exact ExportPattern.isBreak_text line.1
  have hlast : ∀ c ∈ (o.last.map MachineLine.text).getD [], Text.isBreak c = false := by
    cases o.last with
    | none => simp
    | some l => exact ExportPattern.isBreak_text l
  have hlines := Text.lines_ended_append hended ((o.last.map MachineLine.text).getD [])
  rw [List.flatMap_map, List.map_map, Text.lines_unbroken hlast] at hlines
  rw [MachineOutput.text, String.toList_ofList]
  exact hlines

/-- The variables that a docker machine prints are read back, in order and each as often as it is
printed, whatever other lines stand between them and however the lines are ended. -/
theorem machineVariables_text (o : MachineOutput) :
    machineVariables o.text = o.exports.map ExportedVariable.pair := by
  have hline : ∀ l : MachineLine, ((ExportPattern.node.onLine 2 l.text).map fun m =>
      exportedPair m.text?) = l.exported?.map ExportedVariable.pair := by
    intro l
    cases l with
    | setting v =>
        obtain ⟨m, hm, hname, hvalue⟩ := ExportPattern.exists_onLine v
        rw [MachineLine.text, hm, Option.map_some, exportedPair, hname, hvalue]
        rfl
    | other text not_export _ =>
        rw [MachineLine.text, ExportPattern.onLine_other not_export]
        rfl
  have hempty : ExportPattern.node.onLine 2 [] = none := ExportPattern.onLine_other (by decide)
  rw [machineVariables_eq, o.lines_text, MachineOutput.exports, MachineOutput.lines,
    List.map_filterMap, List.filterMap_append, List.filterMap_append, List.filterMap_map,
    List.filterMap_map]
  congr 1
  · exact List.filterMap_congr fun l _ => hline l.1
  · cases o.last with
    | none => simp [hempty]
    | some l =>
        have hlast := hline l
        simp only [Option.map_some, Option.getD_some, Option.toList_some, List.filterMap_cons,
          List.filterMap_nil, hlast]

/-- A comment between two variables, a value with quotes and an equals sign in it, and a last line
that is not ended. -/
def MachineOutput.commented : MachineOutput where
  ended :=
    [(.setting ⟨"A", "x=\"y\" z", by decide, List.all_eq_true.mp (by decide),
        Text.isBreak_of_all (by decide)⟩, .returnFeed),
      (.other "# export C=\"1\"".toList (by decide) (Text.isBreak_of_all (by decide)), .feed)]
  last := some (.setting ⟨"B", "", by decide, List.all_eq_true.mp (by decide),
    Text.isBreak_of_all (by decide)⟩)

/-- The comment sets no variable, and the quotes belong to the value. -/
theorem machineVariables_text_commented :
    MachineOutput.commented.text =
        "export A=\"x=\"y\" z\"\r\n# export C=\"1\"\nexport B=\"\"" ∧
      machineVariables MachineOutput.commented.text = [("A", "x=\"y\" z"), ("B", "")] :=
  ⟨by decide +kernel, machineVariables_text .commented⟩

end ContainerLint
