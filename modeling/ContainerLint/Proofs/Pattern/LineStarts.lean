import ContainerLint.Proofs.Pattern.Places
import ContainerLint.Proofs.Text.Lines

/-!
# Places where lines start

The lines of a text are what comes after the places where a line starts, each up to its end
(`lines_onward`), and what comes after a line is a line end or nothing (`rest_forth_firstLine`).
-/

namespace ContainerLint

/-- All characters that do not end a line. -/
def lineChars : CharSet := ⟨[(0, 9), (11, 12), (14, 0x10FFFF)]⟩

theorem lineChars_contains (c : Char) : lineChars.contains c = !Text.isBreak c := by
  have hfeed : c = '\n' ↔ c.toNat = 10 := Char.toNat_inj.symm
  have hreturn : c = '\r' ↔ c.toNat = 13 := Char.toNat_inj.symm
  have hvalid : c.toNat < 0x110000 := by
    rcases c.valid with h | h
    · exact Nat.lt_trans h (by decide)
    · exact h.2
  simp only [CharSet.contains, lineChars, CharSet.inRanges, Text.isBreak, hfeed, hreturn]
  grind

namespace Pattern

namespace Cursor

/-- A line starts at the place. -/
abbrev StartsLine (k : Cursor) : Prop := (Look.lineStart true).holds k = true

theorem startsLine_start (text : List Char) : (start text).StartsLine := rfl

/-- A line starts after a character only if that ends a line, and is not cut off from the line
feed after it. -/
theorem startsLine_past (k : Cursor) (c : Char) (rest : List Char) :
    (Look.lineStart true).holds (k.past c rest) =
      (Text.isBreak c && !(c = '\r' && rest.head? = some '\n')) := by
  by_cases hfeed : c = '\n'
  · subst hfeed
    simp [Look.holds, Text.isBreak]
  · by_cases hreturn : c = '\r'
    · subst hreturn
      by_cases hnext : rest.head? = some '\n' <;> simp [Look.holds, Text.isBreak, hnext]
    · simp [Look.holds, Text.isBreak, hfeed, hreturn]

/-- The lines of a text are the first lines after the places where a line starts. If none starts
at the first place, the line that goes on there is left out. -/
theorem lines_onward (k : Cursor) :
    (k.onward.filter fun l => (Look.lineStart true).holds l).map
      (fun l => Text.firstLine l.rest) =
      if (Look.lineStart true).holds k then Text.lines k.rest else (Text.lines k.rest).tail := by
  induction k using rest_induction with
  | nil k h =>
      rw [onward_nil h, h]
      cases hstart : (Look.lineStart true).holds k <;>
        simp [hstart, h, Text.lines, Text.firstLine]
  | cons k c rest h ih =>
      -- After this place come the lines after the first one.
      have hlater : ((k.past c rest).onward.filter fun l => (Look.lineStart true).holds l).map
          (fun l => Text.firstLine l.rest) = (Text.lines (c :: rest)).tail := by
        rw [ih, startsLine_past, past_rest]
        by_cases hcrlf : c = '\r' ∧ rest.head? = some '\n'
        · obtain ⟨rfl, hfeed⟩ := hcrlf
          rw [Text.lines_crlf hfeed]
          simp [hfeed]
        · cases hc : Text.isBreak c with
          | true =>
              have hnot : (decide (c = '\r') && decide (rest.head? = some '\n')) = false := by
                simpa using hcrlf
              rw [Text.lines_break hc hcrlf, hnot]
              rfl
          | false =>
              rw [Text.lines_char hc, List.tail_modifyHead]
              rfl
      rw [onward_cons h, List.filter_cons, h]
      cases hstart : (Look.lineStart true).holds k with
      | true =>
          rw [if_pos rfl, if_pos rfl, List.map_cons, hlater, h]
          exact (Text.lines_eq_firstLine_cons (c :: rest)).symm
      | false => exact hlater

/-! ## Inside a line -/

variable {k : Cursor} {n : Nat}

/-- After a line comes nothing or a line end. -/
theorem rest_forth_firstLine (k : Cursor) (hn : n ≤ (Text.firstLine k.rest).length) :
    ∃ after, (k.forth n).rest = (Text.firstLine k.rest).drop n ++ after ∧
      ∀ c, after.head? = some c → Text.isBreak c = true := by
  have hsplit : Text.firstLine k.rest ++ k.rest.drop (Text.firstLine k.rest).length = k.rest :=
    List.prefix_iff_eq_append.mp (List.takeWhile_prefix _)
  refine ⟨k.rest.drop (Text.firstLine k.rest).length, ?_, Text.head?_drop_firstLine k.rest⟩
  rw [forth_rest, ← List.drop_append_of_le_length hn, hsplit]

end Cursor

end Pattern

end ContainerLint
