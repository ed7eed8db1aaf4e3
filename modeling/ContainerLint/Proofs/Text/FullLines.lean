import ContainerLint.Proofs.Text.Lines

/-!
# Lines with their line feeds

`Text.fullLines` takes a text apart after each of its line feeds, and `Text.openEnd` is what comes
after the last one. A carriage return is a character like any other here. Nothing is lost
(`flatten_fullLines_append_openEnd`), and a text that is put after full lines leaves them as they
are (`fullLines_append`).
-/

namespace ContainerLint.Text

/-- The lines of a text that have a line feed, each with it. -/
def fullLines : List Char → List (List Char)
  | [] => []
  | c :: rest => if c = '\n' then [c] :: fullLines rest else (fullLines rest).modifyHead (c :: ·)

/-- What comes after the last line feed of a text. -/
def openEnd : List Char → List Char
  | [] => []
  | c :: rest => if '\n' ∈ c :: rest then openEnd rest else c :: rest

variable {c : Char} {text line rest : List Char}

theorem fullLines_feed (rest : List Char) :
    fullLines ('\n' :: rest) = ['\n'] :: fullLines rest := by
  rw [fullLines, if_pos rfl]

theorem fullLines_char (h : c ≠ '\n') :
    fullLines (c :: rest) = (fullLines rest).modifyHead (c :: ·) := by
  rw [fullLines, if_neg h]

/-! ## Where there is no line feed -/

theorem fullLines_of_not_mem (h : '\n' ∉ text) : fullLines text = [] := by
  induction text with
  | nil => rfl
  | cons c rest ih =>
      rw [List.mem_cons, not_or] at h
      rw [fullLines_char (Ne.symm h.1), ih h.2]
      rfl

theorem openEnd_of_not_mem (h : '\n' ∉ text) : openEnd text = text := by
  cases text with
  | nil => rfl
  | cons c rest => rw [openEnd, if_neg h]

theorem feed_not_mem_openEnd (text : List Char) : '\n' ∉ openEnd text := by
  induction text with
  | nil => simp [openEnd]
  | cons c rest ih =>
      rw [openEnd]
      split
      · exact ih
      · assumption

/-! ## The parts of a text -/

theorem fullLines_ne_nil (h : '\n' ∈ text) : fullLines text ≠ [] := by
  induction text with
  | nil => simp at h
  | cons c rest ih =>
      by_cases hc : c = '\n'
      · rw [hc, fullLines_feed]
        exact List.cons_ne_nil _ _
      · rw [fullLines_char hc]
        have hrest := (List.mem_cons.mp h).resolve_left (Ne.symm hc)
        simpa using ih hrest

/-- There are as many full lines as line feeds. -/
theorem length_fullLines (text : List Char) : (fullLines text).length = text.count '\n' := by
  induction text with
  | nil => rfl
  | cons c rest ih =>
      by_cases hc : c = '\n'
      · rw [hc, fullLines_feed, List.length_cons, List.count_cons_self, ih]
      · rw [fullLines_char hc, List.length_modifyHead, List.count_cons_of_ne hc, ih]

theorem flatten_modifyHead_cons (c : Char) {lines : List (List Char)} (h : lines ≠ []) :
    (lines.modifyHead (c :: ·)).flatten = c :: lines.flatten := by
  cases lines with
  | nil => exact absurd rfl h
  | cons line lines => rfl

/-- The full lines and what comes after them are the text. -/
theorem flatten_fullLines_append_openEnd (text : List Char) :
    (fullLines text).flatten ++ openEnd text = text := by
  induction text with
  | nil => rfl
  | cons c rest ih =>
      by_cases hmem : '\n' ∈ c :: rest
      · rw [openEnd, if_pos hmem]
        by_cases hc : c = '\n'
        · subst hc
          rw [fullLines_feed, List.flatten_cons, List.append_assoc, ih]
          rfl
        · have hrest := (List.mem_cons.mp hmem).resolve_left (Ne.symm hc)
          rw [fullLines_char hc, flatten_modifyHead_cons c (fullLines_ne_nil hrest),
            List.cons_append, ih]
      · rw [fullLines_of_not_mem hmem, openEnd_of_not_mem hmem]
        rfl

/-- A full line has a line feed at its end and nowhere else. -/
theorem exists_body_of_mem_fullLines (h : line ∈ fullLines text) :
    ∃ body, line = body ++ ['\n'] ∧ '\n' ∉ body := by
  induction text generalizing line with
  | nil => simp [fullLines] at h
  | cons c rest ih =>
      by_cases hc : c = '\n'
      · subst hc
        rw [fullLines_feed] at h
        rcases List.mem_cons.mp h with rfl | hrest
        · exact ⟨[], rfl, List.not_mem_nil⟩
        · exact ih hrest
      · rw [fullLines_char hc] at h
        -- The character goes to the first of the lines, if there is one.
        cases hlines : fullLines rest with
        | nil => simp [hlines] at h
        | cons first lines =>
            rw [hlines, List.modifyHead_cons] at h
            rcases List.mem_cons.mp h with rfl | hlater
            · obtain ⟨body, rfl, hbody⟩ := ih (hlines ▸ List.mem_cons_self)
              refine ⟨c :: body, rfl, ?_⟩
              rw [List.mem_cons, not_or]
              exact ⟨Ne.symm hc, hbody⟩
            · exact ih (hlines ▸ List.mem_cons_of_mem _ hlater)

/-! ## One text after another -/

theorem fullLines_append_feed (before more : List Char) :
    fullLines (before ++ '\n' :: more) = fullLines (before ++ ['\n']) ++ fullLines more := by
  induction before with
  | nil =>
      rw [List.nil_append, List.nil_append, fullLines_feed, fullLines_feed]
      rfl
  | cons c before ih =>
      rw [List.cons_append, List.cons_append]
      by_cases hc : c = '\n'
      · rw [hc, fullLines_feed, fullLines_feed, ih, List.cons_append]
      · rw [fullLines_char hc, fullLines_char hc, ih,
          modifyHead_append _ (fullLines_ne_nil (by simp))]

/-- What is put after full lines leaves them as they are. -/
theorem fullLines_append (h : Closed text) (more : List Char) :
    fullLines (text ++ more) = fullLines text ++ fullLines more := by
  rcases h with rfl | ⟨before, rfl⟩
  · rfl
  · rw [List.append_assoc]
    exact fullLines_append_feed before more

/-- A line that is ended by a line feed comes before the full lines of the rest. -/
theorem fullLines_line (h : '\n' ∉ line) (rest : List Char) :
    fullLines (line ++ '\n' :: rest) = (line ++ ['\n']) :: fullLines rest := by
  induction line with
  | nil => exact fullLines_feed rest
  | cons c line ih =>
      rw [List.mem_cons, not_or] at h
      rw [List.cons_append, fullLines_char (Ne.symm h.1), ih h.2]
      rfl

theorem openEnd_append_feed (before more : List Char) :
    openEnd (before ++ '\n' :: more) = openEnd more := by
  induction before with
  | nil => rw [List.nil_append, openEnd, if_pos List.mem_cons_self]
  | cons c before ih => rw [List.cons_append, openEnd, if_pos (by simp), ih]

theorem openEnd_append (h : Closed text) (more : List Char) :
    openEnd (text ++ more) = openEnd more := by
  rcases h with rfl | ⟨before, rfl⟩
  · rfl
  · rw [List.append_assoc]
    exact openEnd_append_feed before more

/-- A text that ends with a full line consists of full lines. -/
theorem flatten_fullLines (h : Closed text) : (fullLines text).flatten = text := by
  have hend : openEnd text = [] := by
    rw [← List.append_nil text, openEnd_append h]
    rfl
  have hparts := flatten_fullLines_append_openEnd text
  rwa [hend, List.append_nil] at hparts

/-! ## Lines in the other sense -/

theorem closed_of_mem_fullLines (h : line ∈ fullLines text) : Closed line := by
  obtain ⟨body, hline, -⟩ := exists_body_of_mem_fullLines h
  exact .inr ⟨body, hline⟩

variable {lines : List (List Char)}

theorem closed_flatten (h : ∀ line ∈ lines, Closed line) : Closed lines.flatten := by
  induction lines with
  | nil => exact .inl rfl
  | cons line lines ih =>
      rw [List.flatten_cons]
      exact (h line List.mem_cons_self).append (ih fun l hl => h l (List.mem_cons_of_mem _ hl))

/-- Full lines are cut at their other line ends one by one. -/
theorem ended_flatten (h : ∀ line ∈ lines, Closed line) :
    ended lines.flatten = lines.flatMap ended := by
  induction lines with
  | nil => rfl
  | cons line lines ih =>
      rw [List.flatten_cons, ended_append (h line List.mem_cons_self),
        ih fun l hl => h l (List.mem_cons_of_mem _ hl), List.flatMap_cons]

theorem ended_eq_flatMap (h : Closed text) : ended text = (fullLines text).flatMap ended := by
  rw [← ended_flatten fun _ => closed_of_mem_fullLines, flatten_fullLines h]

end ContainerLint.Text
