/-!
# Lines of a text

`Text.lines` cuts a text at its line ends, which are a line feed, a carriage return, and both of
them in this order. What comes after the last line end is a line too, maybe an empty one. A text
that is put after a complete line does not change the lines before it (`lines_append`); put after
an incomplete one it goes on with that line (`lines_append_open`).
-/

namespace ContainerLint.Text

/-- The character ends a line. -/
def isBreak (c : Char) : Bool := c = '\n' || c = '\r'

/-- The lines of a text. The carriage return before a line feed belongs to the end of the line. -/
def lines : List Char → List (List Char)
  | [] => [[]]
  | c :: rest =>
    if c = '\r' ∧ rest.head? = some '\n' then lines rest
    else if isBreak c then [] :: lines rest
    else (lines rest).modifyHead (c :: ·)

/-- The lines of a text that have an end. -/
def ended (text : List Char) : List (List Char) := (lines text).dropLast

/-- The part of a text before its first line end. -/
def firstLine (text : List Char) : List Char := text.takeWhile fun c => !isBreak c

/-- The text is empty or its last line is complete. -/
def Closed (text : List Char) : Prop := text = [] ∨ ∃ before, text = before ++ ['\n']

variable {c : Char} {text more rest : List Char}

theorem isBreak_of_all (h : (text.all fun c => !isBreak c) = true) :
    ∀ c ∈ text, isBreak c = false := by
  simpa only [List.all_eq_true, Bool.not_eq_true'] using h

/-! ## One character -/

theorem lines_crlf (h : rest.head? = some '\n') : lines ('\r' :: rest) = lines rest := by
  simp [lines, h]

theorem lines_break (hc : isBreak c = true) (h : ¬ (c = '\r' ∧ rest.head? = some '\n')) :
    lines (c :: rest) = [] :: lines rest := by
  rw [lines, if_neg h, if_pos hc]

theorem lines_char (hc : isBreak c = false) :
    lines (c :: rest) = (lines rest).modifyHead (c :: ·) := by
  have hcr : c ≠ '\r' := by
    rintro rfl
    simp [isBreak] at hc
  rw [lines, if_neg (fun h => hcr h.1), hc]
  rfl

/-- What holds of the empty text, and of a text with one more character in front in each of the
three cases of `lines`, holds of every text. -/
theorem lines_induction {motive : List Char → Prop} (nil : motive [])
    (crlf : ∀ rest, rest.head? = some '\n' → motive rest → motive ('\r' :: rest))
    (ends : ∀ c rest, isBreak c = true → ¬ (c = '\r' ∧ rest.head? = some '\n') → motive rest →
      motive (c :: rest))
    (char : ∀ c rest, isBreak c = false → motive rest → motive (c :: rest)) (text : List Char) :
    motive text := by
  induction text with
  | nil => exact nil
  | cons c rest ih =>
      by_cases hcrlf : c = '\r' ∧ rest.head? = some '\n'
      · obtain ⟨rfl, h⟩ := hcrlf
        exact crlf rest h ih
      · cases hc : isBreak c with
        | true => exact ends c rest hc hcrlf ih
        | false => exact char c rest hc ih

/-! ## The first line -/

/-- The first of the lines is what comes before the first line end. -/
theorem lines_eq_firstLine_cons (text : List Char) :
    lines text = firstLine text :: (lines text).tail := by
  induction text using lines_induction with
  | nil => rfl
  | crlf rest h ih =>
      have hempty : firstLine rest = [] := by
        cases rest with
        | nil => rfl
        | cons d rest =>
            obtain rfl : d = '\n' := by simpa using h
            rfl
      rw [lines_crlf h, ih, hempty]
      rfl
  | ends c rest hc h ih =>
      rw [lines_break hc h]
      simp [firstLine, hc]
  | char c rest hc ih =>
      rw [lines_char hc, ih]
      simp [firstLine, hc]

theorem lines_ne_nil (text : List Char) : lines text ≠ [] := by
  rw [lines_eq_firstLine_cons]
  exact List.cons_ne_nil _ _

/-- No character of a line ends it. -/
theorem isBreak_of_mem_firstLine (h : c ∈ firstLine text) : isBreak c = false := by
  simpa using List.all_eq_true.mp List.all_takeWhile c h

/-- What comes first without a line end belongs to the first line. -/
theorem lines_unbroken_append {line : List Char} (h : ∀ c ∈ line, isBreak c = false)
    (rest : List Char) :
    lines (line ++ rest) = (lines rest).modifyHead (line ++ ·) := by
  induction line with
  | nil =>
      rw [lines_eq_firstLine_cons rest]
      exact lines_eq_firstLine_cons rest
  | cons c line ih =>
      have hline := ih fun d hd => h d (List.mem_cons_of_mem _ hd)
      rw [List.cons_append, lines_char (h c List.mem_cons_self), hline,
        List.modifyHead_modifyHead]
      rfl

/-- A line end that has a line feed. -/
inductive LineEnd
  | feed | returnFeed
deriving DecidableEq, Repr

/-- The characters of a line end. -/
def LineEnd.chars : LineEnd → List Char
  | .feed => ['\n']
  | .returnFeed => ['\r', '\n']

/-- A line that is ended comes before the lines of the rest. -/
theorem lines_line {line : List Char} (h : ∀ c ∈ line, isBreak c = false) (lineEnd : LineEnd)
    (rest : List Char) : lines (line ++ lineEnd.chars ++ rest) = line :: lines rest := by
  have hfeed : lines ('\n' :: rest) = [] :: lines rest := lines_break rfl (by simp)
  have hend : lines (lineEnd.chars ++ rest) = [] :: lines rest := by
    cases lineEnd with
    | feed => exact hfeed
    | returnFeed => exact (lines_crlf rfl).trans hfeed
  rw [List.append_assoc, lines_unbroken_append h, hend, List.modifyHead_cons, List.append_nil]

/-- A text without a line end is one line. -/
theorem lines_unbroken {line : List Char} (h : ∀ c ∈ line, isBreak c = false) :
    lines line = [line] := by
  have hline := lines_unbroken_append h []
  rwa [List.append_nil, lines, List.modifyHead_cons, List.append_nil] at hline

/-- Lines that are ended, whatever ends them, come before the lines of the rest. -/
theorem lines_ended_append {ended : List (List Char × LineEnd)}
    (h : ∀ l ∈ ended, ∀ c ∈ l.1, isBreak c = false) (rest : List Char) :
    lines ((ended.flatMap fun l => l.1 ++ l.2.chars) ++ rest) =
      ended.map Prod.fst ++ lines rest := by
  induction ended with
  | nil => rfl
  | cons l ended ih =>
      rw [List.flatMap_cons, List.append_assoc, lines_line (h l List.mem_cons_self),
        ih fun l hl => h l (List.mem_cons_of_mem _ hl)]
      rfl

theorem take_firstLine (text : List Char) :
    text.take (firstLine text).length = firstLine text :=
  (List.prefix_iff_eq_take.mp (List.takeWhile_prefix _)).symm

/-- After the first line comes nothing or the end of the line. -/
theorem head?_drop_firstLine (text : List Char) :
    ∀ c, (text.drop (firstLine text).length).head? = some c → isBreak c = true := by
  have hsplit : text = firstLine text ++ text.dropWhile fun c => !isBreak c :=
    List.takeWhile_append_dropWhile.symm
  have hdrop : text.drop (firstLine text).length = text.dropWhile fun c => !isBreak c :=
    (congrArg (List.drop (firstLine text).length) hsplit).trans List.drop_left
  intro c hc
  rw [hdrop] at hc
  have hnot := List.head?_dropWhile_not (fun c => !isBreak c) text
  rw [hc] at hnot
  simpa using hnot

/-- The last of the lines, which comes after the last line end. -/
def lastLine (text : List Char) : List Char := (lines text).getLast (lines_ne_nil text)

/-- The lines that have an end, and the last one. -/
theorem ended_append_lastLine (text : List Char) : ended text ++ [lastLine text] = lines text :=
  List.dropLast_concat_getLast _

/-! ## One text after another -/

theorem modifyHead_append {α : Type} (f : α → α) {l : List α} (h : l ≠ []) (m : List α) :
    (l ++ m).modifyHead f = l.modifyHead f ++ m := by
  cases l with
  | nil => exact absurd rfl h
  | cons a l => rfl

/-- Up to a line feed the lines do not depend on what comes after it. -/
theorem lines_before_feed (before : List Char) :
    ∃ complete, complete ≠ [] ∧
      ∀ more, lines (before ++ '\n' :: more) = complete ++ lines more := by
  induction before with
  | nil => exact ⟨[[]], by simp, fun more => lines_break rfl (by simp)⟩
  | cons c before ih =>
      obtain ⟨complete, hne, hlines⟩ := ih
      -- Whether a line end is completed by the next character is settled before the line feed.
      have hhead : ∀ more, (before ++ '\n' :: more).head? = (before ++ ['\n']).head? := by
        intro more
        cases before <;> rfl
      by_cases hcrlf : c = '\r' ∧ (before ++ ['\n']).head? = some '\n'
      · obtain ⟨rfl, h⟩ := hcrlf
        refine ⟨complete, hne, fun more => ?_⟩
        rw [List.cons_append, lines_crlf (by rw [hhead, h]), hlines]
      · cases hc : isBreak c with
        | true =>
            refine ⟨[] :: complete, by simp, fun more => ?_⟩
            rw [List.cons_append, lines_break hc (by rwa [hhead]), hlines]
            rfl
        | false =>
            refine ⟨complete.modifyHead (c :: ·), by simpa using hne, fun more => ?_⟩
            rw [List.cons_append, lines_char hc, hlines, modifyHead_append _ hne]

/-- What is put after complete lines leaves them as they are. -/
theorem lines_append (h : Closed text) (more : List Char) :
    lines (text ++ more) = ended text ++ lines more := by
  rcases h with rfl | ⟨before, rfl⟩
  · rfl
  · obtain ⟨complete, -, hlines⟩ := lines_before_feed before
    have hended : ended (before ++ ['\n']) = complete := by
      rw [ended, hlines [], lines]
      exact List.dropLast_concat
    rw [hended, List.append_assoc]
    exact hlines more

theorem ended_append (h : Closed text) (more : List Char) :
    ended (text ++ more) = ended text ++ ended more := by
  rw [ended, lines_append h, List.dropLast_append_of_ne_nil (lines_ne_nil more)]
  rfl

/-- The last line goes on with what is put after it. The line end at the end of a text must not be
completed by it. -/
theorem exists_lines_append_open (text : List Char) :
    ∃ complete last, ∀ more : List Char, more.head? ≠ some '\n' →
      lines (text ++ more) = complete ++ (lines more).modifyHead (last ++ ·) := by
  induction text with
  | nil =>
      refine ⟨[], [], fun more _ => ?_⟩
      rw [List.nil_append, List.nil_append, lines_eq_firstLine_cons]
      rfl
  | cons c text ih =>
      obtain ⟨complete, last, hlines⟩ := ih
      have hhead : ∀ more : List Char, more.head? ≠ some '\n' →
          ((text ++ more).head? = some '\n' ↔ text.head? = some '\n') := by
        intro more hmore
        cases text with
        | nil => simp [hmore]
        | cons d text => rfl
      by_cases hcrlf : c = '\r' ∧ text.head? = some '\n'
      · obtain ⟨rfl, hnl⟩ := hcrlf
        refine ⟨complete, last, fun more hmore => ?_⟩
        rw [List.cons_append, lines_crlf ((hhead more hmore).mpr hnl), hlines more hmore]
      · cases hc : isBreak c with
        | true =>
            refine ⟨[] :: complete, last, fun more hmore => ?_⟩
            rw [List.cons_append, lines_break hc (by rwa [hhead more hmore]), hlines more hmore]
            rfl
        | false =>
            -- The character goes to the first line, which is the last one if no other ended.
            cases complete with
            | nil =>
                refine ⟨[], c :: last, fun more hmore => ?_⟩
                rw [List.cons_append, lines_char hc, hlines more hmore, List.nil_append,
                  List.modifyHead_modifyHead]
                rfl
            | cons line complete =>
                refine ⟨(c :: line) :: complete, last, fun more hmore => ?_⟩
                rw [List.cons_append, lines_char hc, hlines more hmore]
                rfl

theorem lines_append_open (text : List Char) (h : more.head? ≠ some '\n') :
    lines (text ++ more) = ended text ++ (lines more).modifyHead (lastLine text ++ ·) := by
  obtain ⟨complete, last, hlines⟩ := exists_lines_append_open text
  have htext : lines text = complete ++ [last] := by simpa [lines] using hlines []
  have hended : ended text = complete := by rw [ended, htext, List.dropLast_concat]
  have hlast : lastLine text = last := by simp [lastLine, htext]
  rw [hended, hlast, hlines more h]

theorem lastLine_of_closed (h : Closed text) : lastLine text = [] := by
  have hlines := lines_append h []
  rw [List.append_nil, ← ended_append_lastLine text] at hlines
  exact List.singleton_inj.mp (List.append_cancel_left hlines)

theorem Closed.append {text more : List Char} (h : Closed text) (hmore : Closed more) :
    Closed (text ++ more) := by
  rcases hmore with rfl | ⟨before, rfl⟩
  · rwa [List.append_nil]
  · exact .inr ⟨text ++ before, (List.append_assoc ..).symm⟩

end ContainerLint.Text
