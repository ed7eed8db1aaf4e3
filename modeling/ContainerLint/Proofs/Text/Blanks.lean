import ContainerLint.Text.Blank
import Mathlib.Data.List.DropRight

/-!
# Blanks around words and between them

The two operations that look at blanks in the words of the library: `trim` drops blanks from both
ends of a text (`trim_eq`), and `words` splits a text at each of its blanks and keeps what is not
empty (`words_eq`).
-/

namespace ContainerLint.Text

variable {text : List Char}

theorem trimEnd_eq (text : List Char) : trimEnd text = text.rdropWhile isBlank := by
  induction text with
  | nil => rfl
  | cons c rest ih =>
      have hsplit : (c :: rest).rdropWhile isBlank =
          if rest.rdropWhile isBlank = [] then [c].rdropWhile isBlank
          else c :: rest.rdropWhile isBlank := by
        simp only [List.rdropWhile, List.reverse_cons, List.dropWhile_append, List.isEmpty_iff,
          List.reverse_eq_nil_iff]
        split <;> simp
      rw [hsplit, trimEnd, ih]
      split
      · rename_i hnil
        rw [if_pos hnil, List.rdropWhile_singleton]
      · rename_i hkept
        rw [if_neg (by simpa using hkept)]

/-- Blanks are dropped from both ends. -/
theorem trim_eq (text : List Char) : trim text = (text.dropWhile isBlank).rdropWhile isBlank :=
  trimEnd_eq _

/-- Nothing is left exactly of blanks. -/
theorem trim_eq_nil_iff : trim text = [] ↔ ∀ c ∈ text, isBlank c = true := by
  rw [trim_eq, List.rdropWhile_eq_nil_iff]
  constructor
  · intro hleft
    cases hdrop : text.dropWhile isBlank with
    | nil => exact List.dropWhile_eq_nil_iff.mp hdrop
    | cons d rest =>
        -- What comes first after leading blanks is none.
        have hnot := List.head?_dropWhile_not isBlank text
        rw [hdrop] at hnot hleft
        have hblank := hleft d List.mem_cons_self
        simp [hblank] at hnot
  · exact fun hall c hc => hall c ((List.dropWhile_suffix isBlank).subset hc)

/-- The words are what is not empty between the blanks of a text. -/
theorem words_eq (text : List Char) :
    words text = (text.splitOnP isBlank).filter fun word => !word.isEmpty := by
  induction text with
  | nil => rfl
  | cons c rest ih =>
      rw [List.splitOnP_cons_eq_if_modifyHead, words.eq_def]
      cases hc : isBlank c with
      | true => simpa [hc] using ih
      | false =>
          simp only [hc, Bool.false_eq_true, if_false]
          cases rest with
          | nil => rfl
          | cons d tail =>
              -- The word goes on with the next character or ends before it.
              rw [List.splitOnP_cons_eq_if_modifyHead] at ih ⊢
              cases hd : isBlank d with
              | true =>
                  simp only [hd, if_true] at ih ⊢
                  simp [ih]
              | false =>
                  simp only [hd, Bool.false_eq_true, if_false] at ih ⊢
                  obtain ⟨word, more, hsplit⟩ :=
                    List.exists_cons_of_ne_nil (List.splitOnP_ne_nil isBlank tail)
                  rw [ih, hsplit]
                  simp [extendWord]

end ContainerLint.Text
