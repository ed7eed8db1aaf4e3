import ContainerLint.Proofs.Text.Decoding
import ContainerLint.Proofs.Text.FullLines
import ContainerLint.Run.Collector
import Mathlib.Data.List.Basic

/-!
# What a collector holds

What a collector has read so far can be said without the pieces in which it came.
`StreamText.ofBytes` is what it holds of a stream on which some bytes came, and `Collected` says
that it holds this of both streams and that its output has the full lines of both, those of each
stream in their order. Every piece keeps this (`Collected.push`), so it holds after any pieces
(`collected_foldl`).
-/

namespace ContainerLint

open Utf8 (Complete)

namespace LineBuffer

variable {bytes complete left : List UInt8}

/-- Bytes up to their last line feed, and the bytes after it. -/
def parts (bytes : List UInt8) : List UInt8 × List UInt8 := (cut bytes).getD ([], bytes)

theorem cut_eq_none (h : cut bytes = none) : 10 ∉ bytes := by
  induction bytes with
  | nil => simp
  | cons b bytes ih =>
      rw [cut] at h
      cases hrest : cut bytes with
      | some found => simp [hrest] at h
      | none =>
          rw [hrest] at h
          by_cases hb : b = 10
          · simp [hb] at h
          · rw [List.mem_cons, not_or]
            exact ⟨Ne.symm hb, ih hrest⟩

theorem cut_eq_some (h : cut bytes = some (complete, left)) :
    bytes = complete ++ left ∧ (∃ before, complete = before ++ [10]) ∧ 10 ∉ left := by
  induction bytes generalizing complete left with
  | nil => simp [cut] at h
  | cons b bytes ih =>
      rw [cut] at h
      cases hrest : cut bytes with
      | some found =>
          obtain ⟨lines, rest⟩ := found
          obtain ⟨hwhole, ⟨before, hbefore⟩, hleft⟩ := ih hrest
          simp only [hrest, Option.some.injEq, Prod.mk.injEq] at h
          obtain ⟨rfl, rfl⟩ := h
          exact ⟨by rw [hwhole, List.cons_append],
            ⟨b :: before, by rw [hbefore, List.cons_append]⟩, hleft⟩
      | none =>
          rw [hrest] at h
          by_cases hb : b = 10
          · subst hb
            simp only [if_true, Option.some.injEq, Prod.mk.injEq] at h
            obtain ⟨rfl, rfl⟩ := h
            exact ⟨rfl, ⟨[], rfl⟩, cut_eq_none hrest⟩
          · simp [hb] at h

/-- The two parts are all the bytes: complete lines, and no line feed after them. -/
theorem parts_spec (bytes : List UInt8) :
    bytes = (parts bytes).1 ++ (parts bytes).2 ∧ Complete (parts bytes).1 ∧
      10 ∉ (parts bytes).2 := by
  rw [parts]
  cases h : cut bytes with
  | none => exact ⟨rfl, .inl rfl, cut_eq_none h⟩
  | some found =>
      obtain ⟨hwhole, hcomplete, hleft⟩ := cut_eq_some h
      exact ⟨hwhole, .inr hcomplete, hleft⟩

theorem not_complete_append {more : List UInt8} (hne : more ≠ []) (h : 10 ∉ more) :
    ¬ Complete (complete ++ more) := by
  rintro (hnil | ⟨before, hbefore⟩)
  · exact hne (List.append_eq_nil_iff.mp hnil).2
  · have hlast : more.getLast? = some 10 := by
      rw [← List.getLast?_append_of_ne_nil complete hne, hbefore, List.getLast?_concat]
    exact h (List.mem_of_getLast? hlast)

/-- There is one way to take bytes apart like this. -/
theorem parts_eq (hcomplete : Complete complete) (hleft : 10 ∉ left) :
    parts (complete ++ left) = (complete, left) := by
  obtain ⟨hwhole, hfirst, hsecond⟩ := parts_spec (complete ++ left)
  -- If the first parts differ, the longer one ends inside what is left after the shorter one.
  rcases List.append_eq_append_iff.mp hwhole with ⟨more, hmore, hrest⟩ | ⟨more, hmore, hrest⟩
  · by_cases hne : more = []
    · subst hne
      rw [List.append_nil] at hmore
      exact Prod.ext hmore hrest.symm
    · rw [hmore] at hfirst
      refine absurd hfirst (not_complete_append hne fun hmem => hleft ?_)
      rw [hrest]
      exact List.mem_append_left _ hmem
  · by_cases hne : more = []
    · subst hne
      rw [List.append_nil] at hmore
      exact Prod.ext hmore.symm hrest
    · rw [hmore] at hcomplete
      refine absurd hcomplete (not_complete_append hne fun hmem => hsecond ?_)
      rw [hrest]
      exact List.mem_append_left _ hmem

/-- More bytes go on with what comes after the complete lines. -/
theorem parts_append (bytes more : List UInt8) :
    parts (bytes ++ more) =
      ((parts bytes).1 ++ (parts ((parts bytes).2 ++ more)).1,
        (parts ((parts bytes).2 ++ more)).2) := by
  obtain ⟨hwhole, hcomplete, -⟩ := parts_spec bytes
  obtain ⟨hmore, hlater, hleft⟩ := parts_spec ((parts bytes).2 ++ more)
  have hboth : Complete ((parts bytes).1 ++ (parts ((parts bytes).2 ++ more)).1) := by
    rcases hlater with hnil | ⟨before, hbefore⟩
    · rwa [hnil, List.append_nil]
    · rw [hbefore, ← List.append_assoc]
      exact .inr ⟨_, rfl⟩
  rw [← parts_eq hboth hleft, List.append_assoc, ← hmore, ← List.append_assoc, ← hwhole]

/-- The text of complete lines and of what comes after them is the text of all. -/
theorem decoded_append (h : Complete complete) (more : List UInt8) :
    decoded (complete ++ more) = decoded complete ++ decoded more := by
  rw [decoded, Utf8.decodeLossy_append h, String.ofList_append]
  rfl

/-- A buffer holds back what comes after the complete lines. -/
theorem push_eq (pending bytes : List UInt8) :
    push ⟨pending⟩ bytes =
      (⟨(parts (pending ++ bytes)).2⟩,
        (cut (pending ++ bytes)).map fun found => decoded found.1) := by
  rw [push, parts]
  cases cut (pending ++ bytes) <;> rfl

end LineBuffer

namespace StreamText

/-- What is held of a stream on which some bytes came. -/
def ofBytes (bytes : List UInt8) : StreamText :=
  ⟨⟨(LineBuffer.parts bytes).2⟩, LineBuffer.decoded (LineBuffer.parts bytes).1⟩

theorem closed_text (bytes : List UInt8) : Text.Closed (ofBytes bytes).text.toList := by
  rw [ofBytes, LineBuffer.decoded, String.toList_ofList]
  exact Utf8.closed_decodeLossy (LineBuffer.parts_spec bytes).2.1

/-- The text of a stream goes on with the lines that are complete now. -/
theorem push_eq (pending bytes : List UInt8) (text : String) :
    push ⟨⟨pending⟩, text⟩ bytes =
      (⟨⟨(LineBuffer.parts (pending ++ bytes)).2⟩,
          text ++ LineBuffer.decoded (LineBuffer.parts (pending ++ bytes)).1⟩,
        LineBuffer.decoded (LineBuffer.parts (pending ++ bytes)).1) := by
  rw [push, LineBuffer.push_eq, LineBuffer.parts]
  cases LineBuffer.cut (pending ++ bytes) with
  | none =>
      have hnothing : text ++ LineBuffer.decoded [] = text := String.append_empty
      rw [Option.getD_none, hnothing]
      rfl
  | some found => rfl

/-- At its end the text of a stream goes on with what is after its last line. -/
theorem finish_eq (pending : List UInt8) (text : String) :
    finish ⟨⟨pending⟩, text⟩ =
      (⟨.empty, text ++ LineBuffer.decoded pending⟩, LineBuffer.decoded pending) := by
  cases pending with
  | nil =>
      have hnothing : text ++ LineBuffer.decoded [] = text := String.append_empty
      rw [hnothing]
      rfl
  | cons b pending => rfl

/-- More bytes come: complete lines are given back, and they are what is added to the text. -/
theorem push_ofBytes (bytes more : List UInt8) :
    ∃ lines, (ofBytes bytes).push more = (ofBytes (bytes ++ more), lines) ∧
      Text.Closed lines.toList ∧
      (ofBytes (bytes ++ more)).text = (ofBytes bytes).text ++ lines := by
  obtain ⟨-, hcomplete, -⟩ := LineBuffer.parts_spec bytes
  have hofBytes : ofBytes (bytes ++ more) =
      ⟨⟨(LineBuffer.parts ((LineBuffer.parts bytes).2 ++ more)).2⟩,
        (ofBytes bytes).text ++
          LineBuffer.decoded (LineBuffer.parts ((LineBuffer.parts bytes).2 ++ more)).1⟩ := by
    rw [ofBytes, LineBuffer.parts_append, LineBuffer.decoded_append hcomplete]
    rfl
  refine ⟨_, ?_, ?_, congrArg StreamText.text hofBytes⟩
  · rw [hofBytes]
    exact push_eq _ _ _
  · rw [LineBuffer.decoded, String.toList_ofList]
    exact Utf8.closed_decodeLossy (LineBuffer.parts_spec _).2.1

/-- At the end of the stream its text is the text of all bytes. -/
theorem finish_ofBytes (bytes : List UInt8) :
    (ofBytes bytes).finish = (⟨.empty, LineBuffer.decoded bytes⟩,
      LineBuffer.decoded (LineBuffer.parts bytes).2) := by
  obtain ⟨hwhole, hcomplete, -⟩ := LineBuffer.parts_spec bytes
  have htext : LineBuffer.decoded bytes = LineBuffer.decoded (LineBuffer.parts bytes).1 ++
      LineBuffer.decoded (LineBuffer.parts bytes).2 := by
    rw [← LineBuffer.decoded_append hcomplete, ← hwhole]
  rw [htext]
  exact finish_eq _ _

end StreamText

/-! ## Lines of two streams -/

/-- A list is put together from two others, each of which keeps its order. -/
inductive Interleaved {α : Type} : List α → List α → List α → Prop
  | nil : Interleaved [] [] []
  | left {a : α} {first second both : List α} (h : Interleaved first second both) :
      Interleaved (a :: first) second (a :: both)
  | right {a : α} {first second both : List α} (h : Interleaved first second both) :
      Interleaved first (a :: second) (a :: both)

namespace Interleaved

variable {α : Type} {first second both first' second' both' : List α}

theorem left_only (list : List α) : Interleaved list [] list := by
  induction list with
  | nil => exact .nil
  | cons a list ih => exact ih.left

theorem right_only (list : List α) : Interleaved [] list list := by
  induction list with
  | nil => exact .nil
  | cons a list ih => exact ih.right

theorem append (h : Interleaved first second both) (h' : Interleaved first' second' both') :
    Interleaved (first ++ first') (second ++ second') (both ++ both') := by
  induction h with
  | nil => exact h'
  | left _ ih => exact ih.left
  | right _ ih => exact ih.right

theorem mem_iff (h : Interleaved first second both) {a : α} :
    a ∈ both ↔ a ∈ first ∨ a ∈ second := by
  induction h with
  | nil => simp
  | left _ ih => rw [List.mem_cons, List.mem_cons, ih, or_assoc]
  | right _ ih => rw [List.mem_cons, List.mem_cons, ih, or_left_comm]

/-- What is put together from a list and nothing is that list. -/
theorem eq_left (h : Interleaved first [] both) : both = first := by
  generalize hnone : ([] : List α) = nothing at h
  induction h with
  | nil => rfl
  | left _ ih => rw [ih hnone]
  | right => cases hnone

end Interleaved

/-! ## Pieces of two streams -/

/-- What a collector holds after some pieces: of each stream what belongs to its bytes, and the
full lines of both streams as its output. -/
structure Collected (chunks : List Chunk) (c : Collector) : Prop where
  stdout : c.stdout = .ofBytes (Stream.stdout.bytes chunks)
  stderr : c.stderr = .ofBytes (Stream.stderr.bytes chunks)
  merged : ∃ merged, c.output.toList = merged.flatten ∧
    Interleaved (Text.fullLines c.stdout.text.toList) (Text.fullLines c.stderr.text.toList) merged

namespace Collected

variable {chunks : List Chunk} {c : Collector}

theorem empty : Collected [] .empty where
  stdout := rfl
  stderr := rfl
  merged := ⟨[], rfl, .nil⟩

/-- A piece is added to what was collected. -/
theorem push (h : Collected chunks c) (chunk : Chunk) :
    Collected (chunks ++ [chunk]) (c.push chunk) := by
  obtain ⟨hstdout, hstderr, merged, houtput, hmerged⟩ := h
  obtain ⟨stream, bytes⟩ := chunk
  have hsame : stream.bytes (chunks ++ [⟨stream, bytes⟩]) = stream.bytes chunks ++ bytes := by
    simp [Stream.bytes]
  have hother : ∀ other, other ≠ stream →
      other.bytes (chunks ++ [⟨stream, bytes⟩]) = other.bytes chunks := by
    intro other hne
    simp [Stream.bytes, hne.symm]
  -- The lines that are full now go to the text of the stream and to the output.
  obtain ⟨new, hpush, hnew, htext⟩ := StreamText.push_ofBytes (stream.bytes chunks) bytes
  have hfull : Text.fullLines (StreamText.ofBytes (stream.bytes chunks ++ bytes)).text.toList =
      Text.fullLines (StreamText.ofBytes (stream.bytes chunks)).text.toList ++
        Text.fullLines new.toList := by
    rw [htext, String.toList_append, Text.fullLines_append (StreamText.closed_text _)]
  have hflatten : (c.output ++ new).toList = (merged ++ Text.fullLines new.toList).flatten := by
    rw [String.toList_append, houtput, List.flatten_append, Text.flatten_fullLines hnew]
  cases stream with
  | stdout =>
      rw [Collector.push, hstdout, hpush]
      refine ⟨by rw [hsame], by rw [hother _ (by simp), hstderr], _, hflatten, ?_⟩
      have hboth := hmerged.append (.left_only (Text.fullLines new.toList))
      rwa [hstdout, ← hfull, List.append_nil] at hboth
  | stderr =>
      rw [Collector.push, hstderr, hpush]
      refine ⟨by rw [hother _ (by simp), hstdout], by rw [hsame], _, hflatten, ?_⟩
      have hboth := hmerged.append (.right_only (Text.fullLines new.toList))
      rwa [hstderr, ← hfull, List.append_nil] at hboth

/-- Some pieces are added to what was collected. -/
theorem foldl (h : Collected chunks c) (more : List Chunk) :
    Collected (chunks ++ more) (more.foldl Collector.push c) := by
  induction more generalizing chunks c with
  | nil => rwa [List.append_nil]
  | cons chunk more ih =>
      rw [List.append_cons, List.foldl_cons]
      exact ih (h.push chunk)

end Collected

/-- After any pieces the collector holds what belongs to them. -/
theorem collected_foldl (chunks : List Chunk) :
    Collected chunks (chunks.foldl Collector.push .empty) :=
  Collected.empty.foldl chunks

namespace Collected

variable {chunks : List Chunk} {c : Collector}

/-- The output ends with a full line, and its lines are those of both streams. -/
theorem closed_and_lines (h : Collected chunks c) :
    Text.Closed c.output.toList ∧ ∀ line, line ∈ Text.ended c.output.toList ↔
      line ∈ Text.ended c.stdout.text.toList ∨ line ∈ Text.ended c.stderr.text.toList := by
  obtain ⟨hstdout, hstderr, merged, houtput, hmerged⟩ := h
  have hclosed : ∀ line ∈ merged, Text.Closed line := by
    intro line hline
    rcases hmerged.mem_iff.mp hline with hline | hline
    · exact Text.closed_of_mem_fullLines hline
    · exact Text.closed_of_mem_fullLines hline
  rw [houtput]
  refine ⟨Text.closed_flatten hclosed, fun line => ?_⟩
  rw [Text.ended_flatten hclosed, Text.ended_eq_flatMap (hstdout ▸ StreamText.closed_text _),
    Text.ended_eq_flatMap (hstderr ▸ StreamText.closed_text _)]
  simp only [List.mem_flatMap, hmerged.mem_iff, or_and_right, exists_or]

end Collected

end ContainerLint
