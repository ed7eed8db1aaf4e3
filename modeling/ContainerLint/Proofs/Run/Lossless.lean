import ContainerLint.Proofs.Run.Buffering
import Mathlib.Data.List.ReduceOption

/-!
# Nothing is lost on the way

A line buffer gives back, in complete lines, all the bytes that it takes, and at the end what is
left of them: decoded piece by piece they are the same text as decoded as a whole
(`pushAll_lossless`). The output of a run is put together from the full lines of both streams,
each stream keeping their order, with the open ends of both streams after them
(`output_interleaved`).
-/

namespace ContainerLint

open Utf8 (decodeLossy)

/-! ## One stream -/

namespace LineBuffer

/-- Takes pieces one after another; gives the buffer after them, and what each of them gave
back. -/
def pushAll (b : LineBuffer) : List (List UInt8) → LineBuffer × List (Option String)
  | [] => (b, [])
  | piece :: rest =>
    let (next, lines) := b.push piece
    let (last, given) := next.pushAll rest
    (last, lines :: given)

theorem getD_map_cut (bytes : List UInt8) :
    ((cut bytes).map fun found => decoded found.1).getD "" = decoded (parts bytes).1 := by
  rw [parts]
  cases cut bytes <;> rfl

/-- Complete lines are given back with the line feed at their end. -/
theorem exists_body_of_cut {bytes : List UInt8} {text : String}
    (h : ((cut bytes).map fun found => decoded found.1) = some text) :
    ∃ body, text = body ++ "\n" := by
  obtain ⟨found, hcut, rfl⟩ := Option.map_eq_some_iff.mp h
  obtain ⟨-, ⟨before, hbefore⟩, -⟩ := cut_eq_some hcut
  obtain ⟨body, hbody⟩ := Utf8.decodeLossy_concat_feed before
  refine ⟨String.ofList body, ?_⟩
  rw [hbefore, decoded, hbody, String.ofList_append]

/-- A piece comes after some bytes: the buffer goes on holding back what comes after the complete
lines, and it gives back the text of the lines that are complete now. -/
theorem push_parts (before piece : List UInt8) :
    ∃ lines, push ⟨(parts before).2⟩ piece = (⟨(parts (before ++ piece)).2⟩, lines) ∧
      decoded (parts (before ++ piece)).1 = decoded (parts before).1 ++ lines.getD "" ∧
      ∀ text, lines = some text → ∃ body, text = body ++ "\n" := by
  obtain ⟨-, hcomplete, -⟩ := parts_spec before
  rw [parts_append, decoded_append hcomplete]
  exact ⟨_, push_eq _ _, by rw [getD_map_cut], fun _ => exists_body_of_cut⟩

/-- What is held back is given at the end, and then the buffer is empty. -/
theorem finish_eq (pending : List UInt8) :
    (finish ⟨pending⟩).1 = empty ∧ (finish ⟨pending⟩).2.getD "" = decoded pending := by
  cases pending with
  | nil => exact ⟨rfl, rfl⟩
  | cons b pending => exact ⟨rfl, rfl⟩

/-- Pieces come after some bytes. -/
theorem pushAll_parts (before : List UInt8) (pieces : List (List UInt8)) :
    ∃ given, pushAll ⟨(parts before).2⟩ pieces = (⟨(parts (before ++ pieces.flatten)).2⟩, given) ∧
      decoded (parts (before ++ pieces.flatten)).1 =
        decoded (parts before).1 ++ String.join given.reduceOption ∧
      ∀ text, some text ∈ given → ∃ body, text = body ++ "\n" := by
  induction pieces generalizing before with
  | nil => exact ⟨[], by simp [pushAll], by simp, by simp⟩
  | cons piece pieces ih =>
      obtain ⟨lines, hpush, htext, hlines⟩ := push_parts before piece
      obtain ⟨given, hrest, hgiven, hbodies⟩ := ih (before ++ piece)
      rw [List.flatten_cons, ← List.append_assoc]
      refine ⟨lines :: given, by simp only [pushAll, hpush, hrest], ?_, ?_⟩
      · rw [hgiven, htext, String.append_assoc]
        cases lines with
        | none => simp
        | some text => simp
      · intro text hmem
        rcases List.mem_cons.mp hmem with hfirst | hlater
        · exact hlines text hfirst.symm
        · exact hbodies text hlater

/-- A new buffer is one that holds back what comes after the complete lines of no bytes. -/
theorem pushAll_empty (pieces : List (List UInt8)) :
    ∃ given, empty.pushAll pieces = (⟨(parts pieces.flatten).2⟩, given) ∧
      decoded (parts pieces.flatten).1 = String.join given.reduceOption ∧
      ∀ text, some text ∈ given → ∃ body, text = body ++ "\n" := by
  obtain ⟨given, hpush, htext, hbodies⟩ := pushAll_parts [] pieces
  exact ⟨given, hpush, htext.trans String.empty_append, hbodies⟩

/-- Whatever pieces a buffer takes: after each of them it holds no line feed back; whatever one of
them gives back ends with a line feed; and all that is given back, with what is given at the end,
is the text of all bytes. After the end nothing is left. -/
theorem pushAll_lossless (pieces : List (List UInt8)) :
    ∃ last given, empty.pushAll pieces = (last, given) ∧
      (∀ n, 10 ∉ (empty.pushAll (pieces.take n)).1.pending) ∧
      (∀ text, some text ∈ given → ∃ body, text = body ++ "\n") ∧
      String.join given.reduceOption ++ last.finish.2.getD "" = decoded pieces.flatten ∧
      last.finish.1.finish.2 = none := by
  obtain ⟨given, hpush, htext, hbodies⟩ := pushAll_empty pieces
  obtain ⟨hwhole, hcomplete, -⟩ := parts_spec pieces.flatten
  obtain ⟨hended, hrest⟩ := finish_eq (parts pieces.flatten).2
  refine ⟨_, given, hpush, fun n => ?_, hbodies, ?_, ?_⟩
  · obtain ⟨_, htaken, -⟩ := pushAll_empty (pieces.take n)
    rw [htaken]
    exact (parts_spec _).2.2
  · rw [hrest, ← htext, ← decoded_append hcomplete, ← hwhole]
  · rw [hended]
    rfl

end LineBuffer

/-! ## Two streams -/

/-- The text of a stream on which some bytes came has as its full lines the complete lines of the
bytes, and as its open end what comes after them. -/
theorem fullLines_decodeLossy (bytes : List UInt8) :
    Text.fullLines (decodeLossy bytes) =
        Text.fullLines (decodeLossy (LineBuffer.parts bytes).1) ∧
      Text.openEnd (decodeLossy bytes) = decodeLossy (LineBuffer.parts bytes).2 := by
  obtain ⟨hwhole, hcomplete, hleft⟩ := LineBuffer.parts_spec bytes
  have hclosed := Utf8.closed_decodeLossy hcomplete
  have hfeed := Utf8.feed_not_mem_decodeLossy hleft
  have htext : decodeLossy bytes = decodeLossy (LineBuffer.parts bytes).1 ++
      decodeLossy (LineBuffer.parts bytes).2 := by
    rw [← Utf8.decodeLossy_append hcomplete, ← hwhole]
  rw [htext, Text.fullLines_append hclosed, Text.openEnd_append hclosed,
    Text.fullLines_of_not_mem hfeed, Text.openEnd_of_not_mem hfeed, List.append_nil]
  exact ⟨rfl, rfl⟩

/-- The output of a run has all full lines of both streams, each of them whole and once, those of
each stream in their order; after them come the open end of standard output and that of the error
output. The full lines of a stream with its open end after them are its text. -/
theorem output_interleaved (p : Profile) (chunks : List Chunk) (exitCode : Option Int) :
    let text (s : Stream) : List Char := decodeLossy (s.bytes chunks)
    (∃ merged,
      Interleaved (Text.fullLines (text .stdout)) (Text.fullLines (text .stderr)) merged ∧
      (Outcome.ofChunks p chunks exitCode).output.toList =
        merged.flatten ++ Text.openEnd (text .stdout) ++ Text.openEnd (text .stderr)) ∧
    ∀ s, (Text.fullLines (text s)).flatten ++ Text.openEnd (text s) = text s ∧
      (∀ line ∈ Text.fullLines (text s), ∃ body, line = body ++ ['\n'] ∧ '\n' ∉ body) ∧
      '\n' ∉ Text.openEnd (text s) := by
  intro text
  refine ⟨?_, fun s => ⟨Text.flatten_fullLines_append_openEnd _,
    fun line => Text.exists_body_of_mem_fullLines, Text.feed_not_mem_openEnd _⟩⟩
  obtain ⟨hstdout, hstderr, merged, houtput, hmerged⟩ := collected_foldl chunks
  have hlines : ∀ bytes : List UInt8, Text.fullLines (StreamText.ofBytes bytes).text.toList =
      Text.fullLines (decodeLossy bytes) := by
    intro bytes
    rw [(fullLines_decodeLossy bytes).1, StreamText.ofBytes, LineBuffer.decoded,
      String.toList_ofList]
  rw [hstdout, hstderr, hlines, hlines] at hmerged
  refine ⟨merged, hmerged, ?_⟩
  rw [Outcome.ofChunks, Collector.finish, hstdout, hstderr, StreamText.finish_ofBytes,
    StreamText.finish_ofBytes]
  simp only [String.toList_append, houtput, LineBuffer.decoded, String.toList_ofList, text,
    (fullLines_decodeLossy _).2]

end ContainerLint
