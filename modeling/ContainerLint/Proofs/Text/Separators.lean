import ContainerLint.Proofs.Text.Lines

/-!
# Lines and what separates them

`LinesOf` says what the lines of a text are without saying how they are found: pieces without line
ends, with a separator between any two of them, where a carriage return and the line feed after it
are never parted. Every text has such lines, and only those that `lines` gives (`linesOf_iff`).
-/

namespace ContainerLint.Text

/-- What separates two lines: a line feed, a carriage return, or both of them in this order. -/
inductive Separator
  | feed | carriageReturn | returnFeed
deriving DecidableEq, Repr

namespace Separator

/-- The characters of a separator. -/
def chars : Separator → List Char
  | .feed => ['\n']
  | .carriageReturn => ['\r']
  | .returnFeed => ['\r', '\n']

/-- The separator is whole in front of a text: a carriage return is not, if a line feed comes
next. -/
def WholeBefore (s : Separator) (rest : List Char) : Prop :=
  s = .carriageReturn → rest.head? ≠ some '\n'

end Separator

/-- A text consists of these lines, with separators between them. -/
inductive LinesOf : List Char → List (List Char) → Prop
  | last {line : List Char} (h : ∀ c ∈ line, isBreak c = false) : LinesOf line [line]
  | more {line rest : List Char} {lines : List (List Char)} (separator : Separator)
      (h : ∀ c ∈ line, isBreak c = false) (hwhole : separator.WholeBefore rest)
      (hrest : LinesOf rest lines) : LinesOf (line ++ separator.chars ++ rest) (line :: lines)

variable {rest text : List Char} {ls : List (List Char)}

/-- A whole separator ends an empty line. -/
theorem lines_separator {separator : Separator} (hwhole : separator.WholeBefore rest) :
    lines (separator.chars ++ rest) = [] :: lines rest := by
  have hfeed : lines ('\n' :: rest) = [] :: lines rest := lines_break rfl (by simp)
  cases separator with
  | feed => exact hfeed
  | carriageReturn => exact lines_break rfl fun hcrlf => hwhole rfl hcrlf.2
  | returnFeed => exact (lines_crlf rfl).trans hfeed

theorem LinesOf.eq_lines (h : LinesOf text ls) : ls = lines text := by
  induction h with
  | @last line h =>
      have hlines := lines_unbroken_append h []
      rw [List.append_nil] at hlines
      rw [hlines]
      simp [lines]
  | more separator h hwhole _ ih =>
      rw [List.append_assoc, lines_unbroken_append h, lines_separator hwhole, ← ih,
        List.modifyHead_cons, List.append_nil]

/-- A text that does not start with a character of a line is empty or starts with a separator. -/
theorem exists_separator (h : ∀ c, text.head? = some c → isBreak c = true) :
    text = [] ∨ ∃ separator rest, text = Separator.chars separator ++ rest ∧
      separator.WholeBefore rest := by
  cases text with
  | nil => exact .inl rfl
  | cons c rest =>
      have hc : c = '\n' ∨ c = '\r' := by simpa [isBreak] using h c rfl
      rcases hc with rfl | rfl
      · exact .inr ⟨.feed, rest, rfl, by simp [Separator.WholeBefore]⟩
      · by_cases hnext : rest.head? = some '\n'
        · obtain ⟨more, rfl⟩ := List.head?_eq_some_iff.mp hnext
          exact .inr ⟨.returnFeed, more, rfl, by simp [Separator.WholeBefore]⟩
        · exact .inr ⟨.carriageReturn, rest, rfl, fun _ => hnext⟩

/-- Every text has lines: the first line, and after its separator the lines of the rest. -/
theorem exists_linesOf (text : List Char) : ∃ ls, LinesOf text ls := by
  have hsplit : firstLine text ++ text.drop (firstLine text).length = text :=
    List.prefix_iff_eq_append.mp (List.takeWhile_prefix _)
  have hline : ∀ c ∈ firstLine text, isBreak c = false := fun _ => isBreak_of_mem_firstLine
  rcases exists_separator (head?_drop_firstLine text) with hnil | ⟨separator, rest, hrest, hwhole⟩
  · rw [hnil, List.append_nil] at hsplit
    rw [hsplit] at hline
    exact ⟨_, .last hline⟩
  · rw [hrest, ← List.append_assoc] at hsplit
    have hshorter : rest.length < text.length := by
      have hlength := congrArg List.length hsplit
      cases separator <;> simp [Separator.chars] at hlength <;> omega
    obtain ⟨ls, hls⟩ := exists_linesOf rest
    have htext := LinesOf.more separator hline hwhole hls
    rw [hsplit] at htext
    exact ⟨_, htext⟩
termination_by text.length

/-- The lines of a text are those that are found, and no others. -/
theorem linesOf_iff : LinesOf text ls ↔ ls = lines text := by
  refine ⟨LinesOf.eq_lines, ?_⟩
  rintro rfl
  obtain ⟨found, h⟩ := exists_linesOf text
  exact h.eq_lines ▸ h

end ContainerLint.Text
