import ContainerLint.Proofs.Pattern.Code
import ContainerLint.Proofs.Pattern.LineStarts
import ContainerLint.Proofs.Text.Blanks
import ContainerLint.Proofs.Text.Separators
import ContainerLint.Run.DaemonError

/-!
# Finding faults of the docker daemon line by line

The search for a fault of the docker daemon is a search for a pattern. `daemonError?_eq_find` says
that it comes to the same as looking through the lines for the first one that starts in one of two
ways: the pattern matches at the start of such a line, up to its end, and nowhere else. What the
lines of a text are is said apart from how they are found in `daemonError?_scan`.
-/

namespace ContainerLint

open Pattern

/-- How a line starts in which docker tells that its daemon refused something. -/
def refusedStart : List Char := "Error response from daemon: ".toList

/-- How a line starts in which docker tells that it did not reach its daemon. -/
def unreachedStart : List Char := "Cannot connect to the Docker daemon".toList

/-- In this line docker reports a fault of its own. -/
def isDaemonLine (line : List Char) : Bool :=
  refusedStart.isPrefixOf line || unreachedStart.isPrefixOf line

/-- What such a line consists of. -/
def daemonLineNode : Node :=
  .cat (.alt (.literal refusedStart) (.literal unreachedStart))
    (.rep (.set lineChars) ⟨0, none⟩ true)

/-- The pattern of such a line, with its meaning fixed. -/
def daemonErrorNode : Node :=
  .cat (.look (.lineStart true)) (.cat (.capture 1 daemonLineNode) (.look (.lineEnd true)))

theorem daemonErrorPattern_eq : daemonErrorPattern = .ok ⟨daemonErrorNode.program, 1⟩ :=
  Pattern.compile_of_meaning (n := daemonErrorNode) (by decide +kernel) (by decide +kernel)

/-! ## How a line starts -/

variable {start text : List Char}

/-- What belongs to the line and comes next in the text comes next in the line. -/
theorem firstLine_append (h : ∀ c ∈ start, Text.isBreak c = false) (rest : List Char) :
    Text.firstLine (start ++ rest) = start ++ Text.firstLine rest :=
  List.takeWhile_append_of_pos (by simpa using h)

theorem isPrefixOf_firstLine (h : ∀ c ∈ start, Text.isBreak c = false) (text : List Char) :
    start.isPrefixOf (Text.firstLine text) = start.isPrefixOf text := by
  rw [Bool.eq_iff_iff, List.isPrefixOf_iff_prefix, List.isPrefixOf_iff_prefix]
  constructor
  · exact fun hline => hline.trans (List.takeWhile_prefix _)
  · rintro ⟨rest, rfl⟩
    rw [firstLine_append h]
    exact List.prefix_append _ _

theorem not_isBreak_refusedStart : ∀ c ∈ refusedStart, Text.isBreak c = false :=
  Text.isBreak_of_all (by decide)

theorem not_isBreak_unreachedStart : ∀ c ∈ unreachedStart, Text.isBreak c = false :=
  Text.isBreak_of_all (by decide)

/-- Whether docker reports a fault can be seen from the line alone. -/
theorem isDaemonLine_firstLine (text : List Char) :
    isDaemonLine (Text.firstLine text) = isDaemonLine text := by
  rw [isDaemonLine, isDaemonLine, isPrefixOf_firstLine not_isBreak_refusedStart,
    isPrefixOf_firstLine not_isBreak_unreachedStart]

/-- A line in which docker reports a fault is not empty. -/
theorem ne_nil_of_isDaemonLine {line : List Char} (h : isDaemonLine line = true) : line ≠ [] := by
  rintro rfl
  revert h
  decide

/-! ## The pattern at one place -/

/-- After a line that is not empty the line is known to end. -/
theorem lineEnd_holds_forth {l : Cursor} (hne : Text.firstLine l.rest ≠ []) :
    (Look.lineEnd true).holds (l.forth (Text.firstLine l.rest).length) = true := by
  obtain ⟨last, hlast⟩ := Option.ne_none_iff_exists'.mp (mt List.getLast?_eq_none_iff.mp hne)
  have hline : Text.isBreak last = false :=
    Text.isBreak_of_mem_firstLine (List.mem_of_getLast? hlast)
  have hbefore : (l.forth (Text.firstLine l.rest).length).before = some last := by
    rw [Cursor.forth_before, Text.take_firstLine, hlast]
    rfl
  have hreturn : last ≠ '\r' := by
    rintro rfl
    cases hline
  simp only [Look.holds]
  cases hrest : (l.forth (Text.firstLine l.rest).length).rest with
  | nil => rfl
  | cons c rest =>
      have hc : Text.isBreak c = true := by
        refine Text.head?_drop_firstLine l.rest c ?_
        rw [← Cursor.forth_rest, hrest]
        rfl
      simpa [Text.isBreak, hbefore, hreturn, or_comm] using hc

/-- After its first characters a line is passed up to its end. -/
theorem head?_ways_lineChars {v : Way} (h : ∀ c ∈ start, Text.isBreak c = false)
    (hstart : start.isPrefixOf v.place.rest = true) :
    ((Node.rep (.set lineChars) ⟨0, none⟩ true).ways
        ⟨v.place.forth start.length, v.slots⟩).head? =
      some ⟨v.place.forth (Text.firstLine v.place.rest).length, v.slots⟩ := by
  obtain ⟨rest, hrest⟩ := List.isPrefixOf_iff_prefix.mp hstart
  have hafter : (v.place.forth start.length).rest = rest := by
    rw [Cursor.forth_rest, ← hrest, List.drop_left]
  have hrun : ∀ w : Way, (Way.upTo (Node.set lineChars).ways true w.place.rest.length w).head? =
      some ⟨w.place.forth (Text.firstLine w.place.rest).length, w.slots⟩ := by
    intro w
    have hset : (Node.set lineChars).ways = Way.take fun c => !Text.isBreak c :=
      funext fun w => congrArg (Way.take · w) (funext lineChars_contains)
    rw [hset]
    exact Way.head?_upTo_take _ (Nat.le_refl _)
  rw [Node.ways, Way.power, List.flatMap_singleton]
  refine (hrun _).trans ?_
  rw [hafter, Cursor.forth_forth, ← List.length_append, ← firstLine_append h, hrest]

/-- The first way of this part, from the start of a line. -/
theorem head?_ways_daemonLineNode (v : Way) :
    (daemonLineNode.ways v).head? =
      if isDaemonLine (Text.firstLine v.place.rest) then
        some ⟨v.place.forth (Text.firstLine v.place.rest).length, v.slots⟩
      else none := by
  rw [isDaemonLine_firstLine, isDaemonLine, daemonLineNode, Node.ways, Node.ways, Node.ways,
    Node.ways, Way.literal_eq, Way.literal_eq]
  cases hrefused : refusedStart.isPrefixOf v.place.rest with
  | true =>
      exact Way.head?_flatMap_of_head? rfl
        (head?_ways_lineChars not_isBreak_refusedStart hrefused)
  | false =>
      cases hunreached : unreachedStart.isPrefixOf v.place.rest with
      | true =>
          exact Way.head?_flatMap_of_head? rfl
            (head?_ways_lineChars not_isBreak_unreachedStart hunreached)
      | false => rfl

/-- The first way of the pattern from a place: if a line starts there in which docker reports a
fault, to the end of this line. -/
theorem head?_ways_daemonErrorNode (l : Cursor) :
    ((Node.capture 0 daemonErrorNode).ways ⟨l, []⟩).head?.map Way.slots =
      if (Look.lineStart true).holds l && isDaemonLine (Text.firstLine l.rest) then
        let stop := l.forth (Text.firstLine l.rest).length
        some [(1, stop), (3, stop), (2, l), (0, l)]
      else none := by
  cases hstart : (Look.lineStart true).holds l with
  | false => simp [Node.ways, daemonErrorNode, Way.save, hstart]
  | true =>
      have hinside := head?_ways_daemonLineNode ⟨l, [(2, l), (0, l)]⟩
      cases hline : isDaemonLine (Text.firstLine l.rest) with
      | false =>
          simp only [hline, Bool.false_eq_true, if_false, List.head?_eq_none_iff] at hinside
          simp [Node.ways, daemonErrorNode, Way.save, hstart, hinside]
      | true =>
          simp only [hline, if_true, List.head?_eq_some_iff] at hinside
          obtain ⟨others, hinside⟩ := hinside
          have hend := lineEnd_holds_forth (ne_nil_of_isDaemonLine hline)
          simp [Node.ways, daemonErrorNode, Way.save, hstart, hinside, hend]

/-! ## Looking through the lines -/

/-- To look at the places where lines start is to look through the lines. If no line starts at the
first place, the line that goes on there is left out. -/
theorem findSome?_onward {α : Type} (found : List Char → Option α) (k : Cursor) :
    k.onward.findSome? (fun l =>
        if (Look.lineStart true).holds l then found (Text.firstLine l.rest) else none) =
      if (Look.lineStart true).holds k then (Text.lines k.rest).findSome? found
      else (Text.lines k.rest).tail.findSome? found := by
  have hlines := congrArg (List.findSome? found) k.lines_onward
  rw [List.findSome?_map, ← List.head?_filterMap, List.filterMap_filter, List.head?_filterMap]
    at hlines
  refine hlines.trans ?_
  cases (Look.lineStart true).holds k <;> rfl

/-- What is found at a place can be looked at there. -/
theorem findSome?_bind {α β γ : Type} (first : α → Option β) (then' : β → Option γ)
    (h : ∀ a b, first a = some b → (then' b).isSome) (l : List α) :
    (l.findSome? first).bind then' = l.findSome? fun a => (first a).bind then' := by
  induction l with
  | nil => rfl
  | cons a l ih =>
      rw [List.findSome?_cons, List.findSome?_cons]
      cases hfirst : first a with
      | none => exact ih
      | some b =>
          obtain ⟨c, hc⟩ := Option.isSome_iff_exists.mp (h a b hfirst)
          simp [hc]

/-- The text between two places that were saved for the first group. -/
theorem text?_saved (l stop : Cursor) :
    (Slots.toMatch [(1, stop), (3, stop), (2, l), (0, l)] 1).text? 1 =
      some (String.ofList (l.textTo stop)) := rfl

/-- What the pattern captures at a place. -/
theorem captured_daemonErrorNode (l : Cursor) :
    (((Node.capture 0 daemonErrorNode).ways ⟨l, []⟩).head?.map Way.slots).bind
        (fun slots => (slots.toMatch 1).text? 1) =
      if (Look.lineStart true).holds l then
        if isDaemonLine (Text.firstLine l.rest) then some (String.ofList (Text.firstLine l.rest))
        else none
      else none := by
  have hle : (Text.firstLine l.rest).length ≤ l.rest.length := (List.takeWhile_prefix _).length_le
  have htext : l.textTo (l.forth (Text.firstLine l.rest).length) = Text.firstLine l.rest := by
    rw [Cursor.textTo_forth hle, Text.take_firstLine]
  rw [head?_ways_daemonErrorNode]
  cases (Look.lineStart true).holds l with
  | false => rfl
  | true =>
      cases hline : isDaemonLine (Text.firstLine l.rest) with
      | false => simp
      | true => simp [text?_saved, htext]

/-- The fault that docker reports is the first line that starts in one of the two ways, without
blanks around it. -/
theorem daemonError?_eq_find (text : String) :
    daemonError? text =
      ((Text.lines text.toList).find? isDaemonLine).map fun line =>
        trimmed (String.ofList line) := by
  have hproductive : daemonErrorNode.productive = true := by decide
  -- Every match has a text in the first group, so the first match decides.
  have hsome : ∀ (l : Cursor) slots,
      ((Node.capture 0 daemonErrorNode).ways ⟨l, []⟩).head?.map Way.slots = some slots →
        ((Slots.toMatch slots 1).text? 1).isSome := by
    intro l slots hslots
    rw [head?_ways_daemonErrorNode] at hslots
    split at hslots
    · rw [← Option.some.inj hslots]
      rfl
    · cases hslots
  have hfind : ∀ lines : List (List Char),
      lines.findSome?
        (fun line => if isDaemonLine line then some (String.ofList line) else none) =
        (lines.find? isDaemonLine).map String.ofList := by
    intro lines
    induction lines with
    | nil => rfl
    | cons line lines ih => cases hline : isDaemonLine line <;> simp [hline, ih]
  have hfirst : (Pattern.first? ⟨daemonErrorNode.program, 1⟩ text).bind (·.text? 1) =
      ((Text.lines text.toList).find? isDaemonLine).map String.ofList := by
    have hlength : (Cursor.start text.toList).rest.length ≤ text.toList.length := Nat.le_refl _
    have hsearch := daemonErrorNode.search_program hproductive hlength
    have hstart : (Look.lineStart true).holds (.start text.toList) = true := rfl
    simp only [Pattern.first?]
    rw [hsearch, Option.bind_map, ← hfind]
    refine (findSome?_bind _ _ hsome _).trans ?_
    simp only [captured_daemonErrorNode]
    rw [findSome?_onward
      fun line => if isDaemonLine line then some (String.ofList line) else none, if_pos hstart]
    rfl
  unfold daemonError?
  rw [daemonErrorPattern_eq]
  show ((Pattern.first? ⟨daemonErrorNode.program, 1⟩ text).bind (·.text? 1)).map trimmed = _
  rw [hfirst, Option.map_map]
  rfl

/-! ## The first line that reports a fault -/

/-- Every text consists of lines in exactly one way, a carriage return never being parted from the
line feed after it. The fault that docker reports is the first of them that starts in one of the
two ways, without the blanks at its ends; and there is none exactly if no line starts so. -/
theorem daemonError?_scan (text : String) :
    ∃ lines, (∀ others, Text.LinesOf text.toList others ↔ others = lines) ∧
      (∀ fault, daemonError? text = some fault ↔
        ∃ before line after, lines = before ++ line :: after ∧ isDaemonLine line = true ∧
          (∀ earlier ∈ before, isDaemonLine earlier = false) ∧
          fault.toList = (line.dropWhile Text.isBlank).rdropWhile Text.isBlank) ∧
      (daemonError? text = none ↔ ∀ line ∈ lines, isDaemonLine line = false) := by
  refine ⟨Text.lines text.toList, fun _ => Text.linesOf_iff, fun fault => ?_, ?_⟩
  · have htrimmed : ∀ line, trimmed (String.ofList line) = fault ↔
        fault.toList = (line.dropWhile Text.isBlank).rdropWhile Text.isBlank := by
      intro line
      rw [trimmed, String.toList_ofList, Text.trim_eq, eq_comm, ← String.toList_inj,
        String.toList_ofList]
    simp only [daemonError?_eq_find, Option.map_eq_some_iff, List.find?_eq_some_iff_append,
      htrimmed, Bool.not_eq_true']
    constructor
    · rintro ⟨line, ⟨hline, before, after, hlines, hearlier⟩, hfault⟩
      exact ⟨before, line, after, hlines, hline, hearlier, hfault⟩
    · rintro ⟨before, line, after, hlines, hline, hearlier, hfault⟩
      exact ⟨line, ⟨hline, before, after, hlines, hearlier⟩, hfault⟩
  · simp only [daemonError?_eq_find, Option.map_eq_none_iff, List.find?_eq_none, Bool.not_eq_true]

/-- A line that mentions a fault is no report, and of two reports the first one counts. -/
example :
    daemonError? ("x Error response from daemon: \rCannot connect to the Docker daemon! \r\n" ++
        "Error response from daemon: y") =
      some "Cannot connect to the Docker daemon!" := by
  rw [daemonError?_eq_find]
  decide +kernel

end ContainerLint
