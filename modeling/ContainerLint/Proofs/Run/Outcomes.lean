import ContainerLint.Proofs.Run.Buffering
import ContainerLint.Proofs.Run.DaemonLines

/-!
# Outcomes and the streams that they come from

An outcome hangs on the bytes of the two streams, and hardly on the pieces in which they came
(`ofChunks_streams`): what is extracted is extracted from the text of each stream, and whether
docker reported a fault is the same however the pieces were cut and mixed. The faults themselves
are looked for in the output of both streams, where the ends of the streams are put one after the
other. `reportsByStream_iff` says exactly when this makes no difference.
-/

namespace ContainerLint

open Utf8 (decodeLossy Complete)

/-- The diagnostics that are extracted from two streams. -/
def Profile.extracted (p : Profile) (out err : List UInt8) : List Diagnostic :=
  p.extractor.extract (LineBuffer.decoded out) ++ p.extractor.extract (LineBuffer.decoded err)

/-- The diagnostic about the exit status, unless docker reported a fault or it is not asked
for. -/
def Outcome.exitStatus (o : Outcome) (p : Profile) : List Diagnostic :=
  if o.daemonError = none ∧ p.reportExitStatus = true then
    [exitStatusDiagnostic p.linter.name o.exitCode o.output]
  else []

variable {p : Profile} {chunks : List Chunk} {exitCode : Option Int} {out err : List UInt8}

/-! ## The parts of an outcome -/

/-- The output has the complete lines of both streams, and then what is left of each. -/
theorem output_ofChunks (p : Profile) (chunks : List Chunk) (exitCode : Option Int) :
    ∃ whole : String, Text.Closed whole.toList ∧
      (∀ line, line ∈ Text.ended whole.toList ↔
        line ∈ Text.ended (decodeLossy (LineBuffer.parts (Stream.stdout.bytes chunks)).1) ∨
          line ∈ Text.ended (decodeLossy (LineBuffer.parts (Stream.stderr.bytes chunks)).1)) ∧
      (Outcome.ofChunks p chunks exitCode).output =
        whole ++ LineBuffer.decoded (LineBuffer.parts (Stream.stdout.bytes chunks)).2 ++
          LineBuffer.decoded (LineBuffer.parts (Stream.stderr.bytes chunks)).2 := by
  obtain ⟨hclosed, hlines⟩ := (collected_foldl chunks).closed_and_lines
  obtain ⟨hstdout, hstderr, -⟩ := collected_foldl chunks
  refine ⟨_, hclosed, fun line => ?_, ?_⟩
  · have hline := hlines line
    rw [hstdout, hstderr] at hline
    simpa [StreamText.ofBytes, LineBuffer.decoded] using hline
  · rw [Outcome.ofChunks, Collector.finish, hstdout, hstderr, StreamText.finish_ofBytes,
      StreamText.finish_ofBytes]

theorem daemonError_ofChunks (p : Profile) (chunks : List Chunk) (exitCode : Option Int) :
    (Outcome.ofChunks p chunks exitCode).daemonError =
      daemonError? (Outcome.ofChunks p chunks exitCode).output := by
  rw [Outcome.ofChunks, Collector.finish]

theorem diagnostics_ofChunks (p : Profile) (chunks : List Chunk) (exitCode : Option Int) :
    (Outcome.ofChunks p chunks exitCode).diagnostics =
      p.extracted (Stream.stdout.bytes chunks) (Stream.stderr.bytes chunks) ++
        (Outcome.ofChunks p chunks exitCode).exitStatus p := by
  obtain ⟨hstdout, hstderr, -⟩ := collected_foldl chunks
  rw [Profile.extracted, Outcome.exitStatus, Outcome.ofChunks, Collector.finish, hstdout, hstderr,
    StreamText.finish_ofBytes, StreamText.finish_ofBytes]
  simp [Option.isNone_iff_eq_none]

/-! ## The lines of the output -/

/-- What comes after the complete lines of a stream has no line feed. -/
theorem head?_left_ne_feed (bytes : List UInt8) :
    (decodeLossy (LineBuffer.parts bytes).2).head? ≠ some '\n' := by
  intro hfeed
  exact Utf8.feed_not_mem_decodeLossy (LineBuffer.parts_spec bytes).2.2
    (List.mem_of_mem_head? hfeed)

/-- The lines of a stream: those that are complete, and those of what comes after them. -/
theorem lines_decodeLossy (bytes : List UInt8) :
    Text.lines (decodeLossy bytes) =
      Text.ended (decodeLossy (LineBuffer.parts bytes).1) ++
        Text.lines (decodeLossy (LineBuffer.parts bytes).2) := by
  obtain ⟨hwhole, hcomplete, -⟩ := LineBuffer.parts_spec bytes
  rw [← Text.lines_append (Utf8.closed_decodeLossy hcomplete),
    ← Utf8.decodeLossy_append hcomplete, ← hwhole]

/-- The lines of the output: the complete lines of both streams, and then what is left of standard
output, with what is left of the error output put right after it. -/
theorem lines_output (p : Profile) (chunks : List Chunk) (exitCode : Option Int) :
    ∃ whole : List (List Char),
      (∀ line, line ∈ whole ↔
        line ∈ Text.ended (decodeLossy (LineBuffer.parts (Stream.stdout.bytes chunks)).1) ∨
          line ∈ Text.ended (decodeLossy (LineBuffer.parts (Stream.stderr.bytes chunks)).1)) ∧
      Text.lines (Outcome.ofChunks p chunks exitCode).output.toList =
        whole ++ Text.lines (decodeLossy (LineBuffer.parts (Stream.stdout.bytes chunks)).2 ++
          decodeLossy (LineBuffer.parts (Stream.stderr.bytes chunks)).2) := by
  obtain ⟨whole, hclosed, hlines, houtput⟩ := output_ofChunks p chunks exitCode
  refine ⟨Text.ended whole.toList, hlines, ?_⟩
  rw [houtput, String.toList_append, String.toList_append, List.append_assoc,
    Text.lines_append hclosed, LineBuffer.decoded, LineBuffer.decoded, String.toList_ofList,
    String.toList_ofList]

/-- Whether docker reported a fault can be seen from the bytes of the streams. -/
theorem isSome_daemonError_ofChunks (p : Profile) (chunks : List Chunk) (exitCode : Option Int) :
    (Outcome.ofChunks p chunks exitCode).daemonError.isSome = true ↔
      ∃ line, isDaemonLine line = true ∧
        (line ∈ Text.ended (decodeLossy (LineBuffer.parts (Stream.stdout.bytes chunks)).1) ∨
          line ∈ Text.ended (decodeLossy (LineBuffer.parts (Stream.stderr.bytes chunks)).1) ∨
          line ∈ Text.lines (decodeLossy (LineBuffer.parts (Stream.stdout.bytes chunks)).2 ++
            decodeLossy (LineBuffer.parts (Stream.stderr.bytes chunks)).2)) := by
  obtain ⟨whole, hwhole, hlines⟩ := lines_output p chunks exitCode
  rw [daemonError_ofChunks, daemonError?_eq_find, Option.isSome_map, List.find?_isSome, hlines]
  refine exists_congr fun line => ?_
  rw [List.mem_append, hwhole, and_comm, or_assoc]

/-- An outcome does not hang on how the output was cut into pieces, nor on how the pieces of the
two streams were mixed: the diagnostics are extracted from the text of each stream as a whole,
with the exit status after them unless docker reported a fault; and whether it did so is the same
for all pieces of the same streams. -/
theorem ofChunks_streams (p : Profile) (chunks : List Chunk) (exitCode : Option Int) :
    let o := Outcome.ofChunks p chunks exitCode
    let extracted := p.extracted (Stream.stdout.bytes chunks) (Stream.stderr.bytes chunks)
    o.diagnostics = extracted ++ o.exitStatus p ∧ o.exitCode = exitCode ∧
      ∀ others, Stream.stdout.bytes others = Stream.stdout.bytes chunks →
        Stream.stderr.bytes others = Stream.stderr.bytes chunks →
        let other := Outcome.ofChunks p others exitCode
        other.diagnostics = extracted ++ other.exitStatus p ∧ other.exitCode = o.exitCode ∧
          other.daemonError.isSome = o.daemonError.isSome ∧
          (other.exitStatus p = [] ↔ o.exitStatus p = []) := by
  intro o extracted
  refine ⟨diagnostics_ofChunks p chunks exitCode, rfl, fun others hout herr => ?_⟩
  have hdiagnostics := diagnostics_ofChunks p others exitCode
  rw [hout, herr] at hdiagnostics
  have hdaemon :
      (Outcome.ofChunks p others exitCode).daemonError.isSome = o.daemonError.isSome := by
    rw [Bool.eq_iff_iff, isSome_daemonError_ofChunks, isSome_daemonError_ofChunks, hout, herr]
  have hnone :
      (Outcome.ofChunks p others exitCode).daemonError = none ↔ o.daemonError = none := by
    rw [← Option.isNone_iff_eq_none, ← Option.isNone_iff_eq_none, ← Option.not_isSome,
      ← Option.not_isSome, hdaemon]
  refine ⟨hdiagnostics, rfl, hdaemon, ?_⟩
  simp only [Outcome.exitStatus, hnone]
  split <;> simp

/-- A profile that finds nothing. -/
def silentProfile : Profile :=
  ⟨.flake8, "tools", [], ⟨⟨"", 0, none, none, 0, none⟩, ⟨⟨#[]⟩, 0⟩⟩, true⟩

/-- A line that is cut in two, with another stream in between, comes to the same as a whole
line. -/
theorem ofChunks_streams_cut :
    let cut : List Chunk := [⟨.stdout, [97]⟩, ⟨.stderr, [98, 13, 10]⟩, ⟨.stdout, [10]⟩]
    let whole : List Chunk := [⟨.stdout, [97, 10]⟩, ⟨.stderr, [98, 13, 10]⟩]
    Stream.stdout.bytes cut = Stream.stdout.bytes whole ∧
      Stream.stderr.bytes cut = Stream.stderr.bytes whole ∧
      (Outcome.ofChunks silentProfile cut (some 1)).daemonError.isSome =
        (Outcome.ofChunks silentProfile whole (some 1)).daemonError.isSome := by
  intro cut whole
  have hout : Stream.stdout.bytes cut = Stream.stdout.bytes whole := by decide
  have herr : Stream.stderr.bytes cut = Stream.stderr.bytes whole := by decide
  obtain ⟨-, -, hothers⟩ := ofChunks_streams silentProfile whole (some 1)
  obtain ⟨-, -, hdaemon, -⟩ := hothers cut hout herr
  exact ⟨hout, herr, hdaemon⟩

/-! ## Faults line by line -/

/-- The lines of two streams in which docker reports a fault, each stream decoded by itself. -/
def daemonLines (out err : List UInt8) : List (List Char) :=
  (Text.lines (decodeLossy out) ++ Text.lines (decodeLossy err)).filter isDaemonLine

/-- A fault is told exactly if docker reports one in a line of one of the streams, and it is such
a line without blanks around it. -/
def ReportsByStream (out err : List UInt8) (fault : Option String) : Prop :=
  (fault.isSome = true ↔ ∃ line, line ∈ daemonLines out err) ∧
    ∀ message, fault = some message →
      ∃ line ∈ daemonLines out err, message = trimmed (String.ofList line)

/-- The line in which the end of standard output and the end of the error output meet. -/
def meetingLine (out err : List UInt8) : List Char :=
  Text.lastLine (decodeLossy out) ++ Text.firstLine (decodeLossy (LineBuffer.parts err).2)

/-- It makes no difference that the ends of the two streams meet in one line. Either docker
reports a fault in a line before this one; or it seems to do so in this line, and does so in a
line of one of the streams that looks the same; or it does not seem so, and what the line has of
the error output is no report either, unless there is a later one. -/
def EndsApart (out err : List UInt8) : Prop :=
  (∃ line, isDaemonLine line = true ∧ (line ∈ Text.ended (decodeLossy out) ∨
    line ∈ Text.ended (decodeLossy (LineBuffer.parts err).1))) ∨
  if isDaemonLine (meetingLine out err) = true then
    ∃ line ∈ daemonLines out err,
      trimmed (String.ofList line) = trimmed (String.ofList (meetingLine out err))
  else
    isDaemonLine (Text.firstLine (decodeLossy (LineBuffer.parts err).2)) = true →
      ∃ line ∈ (Text.lines (decodeLossy (LineBuffer.parts err).2)).tail, isDaemonLine line = true

/-- A line in which docker reports a fault is still one with more text after it. -/
theorem isDaemonLine_append {line : List Char} (h : isDaemonLine line = true) (more : List Char) :
    isDaemonLine (line ++ more) = true := by
  simp only [isDaemonLine, Bool.or_eq_true, List.isPrefixOf_iff_prefix] at h ⊢
  exact h.imp (fun h => h.trans (List.prefix_append _ _))
    fun h => h.trans (List.prefix_append _ _)

/-- The lines of standard output but the last, and the last. -/
theorem ended_lastLine_decodeLossy (bytes : List UInt8) :
    Text.ended (decodeLossy bytes) =
        Text.ended (decodeLossy (LineBuffer.parts bytes).1) ++
          Text.ended (decodeLossy (LineBuffer.parts bytes).2) ∧
      Text.lastLine (decodeLossy bytes) =
        Text.lastLine (decodeLossy (LineBuffer.parts bytes).2) := by
  have hlines := lines_decodeLossy bytes
  rw [← Text.ended_append_lastLine (decodeLossy bytes),
    ← Text.ended_append_lastLine (decodeLossy (LineBuffer.parts bytes).2), ← List.append_assoc]
    at hlines
  obtain ⟨hended, hlast⟩ := List.append_inj' hlines rfl
  exact ⟨hended, List.singleton_inj.mp hlast⟩

/-- The lines of the output are lines of the streams, but for one in which the ends meet. -/
theorem lines_output_meetingLine (p : Profile) (chunks : List Chunk) (exitCode : Option Int) :
    ∃ early : List (List Char),
      (∀ line, line ∈ early ↔
        line ∈ Text.ended (decodeLossy (Stream.stdout.bytes chunks)) ∨
          line ∈ Text.ended (decodeLossy (LineBuffer.parts (Stream.stderr.bytes chunks)).1)) ∧
      Text.lines (Outcome.ofChunks p chunks exitCode).output.toList =
        early ++ meetingLine (Stream.stdout.bytes chunks) (Stream.stderr.bytes chunks) ::
          (Text.lines (decodeLossy (LineBuffer.parts (Stream.stderr.bytes chunks)).2)).tail := by
  obtain ⟨whole, hwhole, hlines⟩ := lines_output p chunks exitCode
  obtain ⟨hended, hlast⟩ := ended_lastLine_decodeLossy (Stream.stdout.bytes chunks)
  refine ⟨whole ++ Text.ended (decodeLossy (LineBuffer.parts (Stream.stdout.bytes chunks)).2),
    fun line => ?_, ?_⟩
  · rw [List.mem_append, hwhole, hended, List.mem_append]
    exact or_right_comm
  · rw [hlines, Text.lines_append_open _ (head?_left_ne_feed _), Text.lines_eq_firstLine_cons
      (decodeLossy (LineBuffer.parts (Stream.stderr.bytes chunks)).2), meetingLine, hlast,
      List.append_assoc]
    rfl

/-- The lines of two streams: those before the meeting line, the two halves of it, and those after
it. -/
theorem mem_daemonLines {line : List Char} :
    line ∈ daemonLines out err ↔ isDaemonLine line = true ∧
      ((line ∈ Text.ended (decodeLossy out) ∨
          line ∈ Text.ended (decodeLossy (LineBuffer.parts err).1)) ∨
        line = Text.lastLine (decodeLossy out) ∨
        line = Text.firstLine (decodeLossy (LineBuffer.parts err).2) ∨
        line ∈ (Text.lines (decodeLossy (LineBuffer.parts err).2)).tail) := by
  rw [daemonLines, List.mem_filter, and_comm, ← Text.ended_append_lastLine (decodeLossy out),
    lines_decodeLossy err, Text.lines_eq_firstLine_cons (decodeLossy (LineBuffer.parts err).2)]
  simp only [List.mem_append, List.mem_cons, List.not_mem_nil, or_false, List.tail_cons]
  refine and_congr_right fun _ => ?_
  constructor
  · rintro ((h | h) | (h | h | h))
    · exact .inl (.inl h)
    · exact .inr (.inl h)
    · exact .inl (.inr h)
    · exact .inr (.inr (.inl h))
    · exact .inr (.inr (.inr h))
  · rintro ((h | h) | h | h | h)
    · exact .inl (.inl h)
    · exact .inr (.inl h)
    · exact .inl (.inr h)
    · exact .inr (.inr (.inl h))
    · exact .inr (.inr (.inr h))

/-- The ends of two streams do not meet if one stream ends with a complete line. -/
theorem endsApart_of_complete (h : Complete out ∨ Complete err) : EndsApart out err := by
  refine .inr ?_
  rcases h with h | h
  · have hmeeting :
        meetingLine out err = Text.firstLine (decodeLossy (LineBuffer.parts err).2) := by
      rw [meetingLine, Text.lastLine_of_closed (Utf8.closed_decodeLossy h)]
      rfl
    rw [hmeeting]
    split
    · rename_i hline
      exact ⟨_, mem_daemonLines.mpr ⟨hline, .inr (.inr (.inl rfl))⟩, rfl⟩
    · rename_i hline
      exact fun hfirst => absurd hfirst hline
  · have hparts : (LineBuffer.parts err).2 = [] := by
      rw [← List.append_nil err, LineBuffer.parts_eq h List.not_mem_nil]
    have hmeeting : meetingLine out err = Text.lastLine (decodeLossy out) := by
      rw [meetingLine, hparts]
      exact List.append_nil _
    rw [hmeeting]
    split
    · rename_i hline
      exact ⟨_, mem_daemonLines.mpr ⟨hline, .inr (.inl rfl)⟩, rfl⟩
    · intro hfirst
      rw [hparts] at hfirst
      exact absurd rfl (ne_nil_of_isDaemonLine hfirst)

/-- A fault that is told must be in a line of one of the streams. -/
theorem reportsByStream_some {message : String} :
    ReportsByStream out err (some message) ↔
      ∃ line ∈ daemonLines out err, trimmed (String.ofList line) = message := by
  rw [ReportsByStream]
  constructor
  · rintro ⟨-, hmessage⟩
    obtain ⟨line, hmem, heq⟩ := hmessage _ rfl
    exact ⟨line, hmem, heq.symm⟩
  · rintro ⟨line, hmem, rfl⟩
    refine ⟨iff_of_true rfl ⟨line, hmem⟩, ?_⟩
    rintro _ ⟨⟩
    exact ⟨line, hmem, rfl⟩

/-- If nothing is told, docker must report nothing in any line. -/
theorem reportsByStream_none :
    ReportsByStream out err none ↔ ∀ line, line ∉ daemonLines out err := by
  rw [ReportsByStream]
  constructor
  · rintro ⟨hiff, -⟩ line hmem
    cases hiff.mpr ⟨line, hmem⟩
  · intro hno
    refine ⟨iff_of_false Bool.false_ne_true (fun ⟨line, hmem⟩ => hno line hmem), ?_⟩
    rintro _ ⟨⟩

/-- If docker reports nothing before the meeting line, and does not seem to do so in it, then what
is told of the lines after it is told by stream exactly if one of them is a report whenever the
first line of what is left of the error output is. -/
theorem reportsByStream_late
    (hearly : ¬ ∃ line, isDaemonLine line = true ∧ (line ∈ Text.ended (decodeLossy out) ∨
      line ∈ Text.ended (decodeLossy (LineBuffer.parts err).1)))
    (hmeeting : isDaemonLine (meetingLine out err) = false) :
    ReportsByStream out err
        ((((Text.lines (decodeLossy (LineBuffer.parts err).2)).tail).find? isDaemonLine).map
          fun line => trimmed (String.ofList line)) ↔
      (isDaemonLine (Text.firstLine (decodeLossy (LineBuffer.parts err).2)) = true →
        ∃ line ∈ (Text.lines (decodeLossy (LineBuffer.parts err).2)).tail,
          isDaemonLine line = true) := by
  cases hfind : ((Text.lines (decodeLossy (LineBuffer.parts err).2)).tail).find? isDaemonLine with
  | some line =>
      have hline := List.find?_some hfind
      have hwhere := List.mem_of_find?_eq_some hfind
      have hmem : line ∈ daemonLines out err :=
        mem_daemonLines.mpr ⟨hline, .inr (.inr (.inr hwhere))⟩
      exact iff_of_true (reportsByStream_some.mpr ⟨line, hmem, rfl⟩)
        fun _ => ⟨line, hwhere, hline⟩
  | none =>
      have hno := List.find?_eq_none.mp hfind
      -- The end of standard output is no report: the meeting line starts with it.
      have hlast : isDaemonLine (Text.lastLine (decodeLossy out)) ≠ true := by
        intro hline
        have happend := isDaemonLine_append hline
          (Text.firstLine (decodeLossy (LineBuffer.parts err).2))
        rw [meetingLine] at hmeeting
        cases happend.symm.trans hmeeting
      refine Iff.trans reportsByStream_none ?_
      constructor
      · intro hnothing hfirst
        exact absurd (mem_daemonLines.mpr ⟨hfirst, .inr (.inr (.inl rfl))⟩) (hnothing _)
      · intro himplies line hmem
        obtain ⟨hline, hwhere | rfl | rfl | hwhere⟩ := mem_daemonLines.mp hmem
        · exact hearly ⟨line, hline, hwhere⟩
        · exact hlast hline
        · obtain ⟨later, hwhere, hlater⟩ := himplies hline
          exact hno later hwhere hlater
        · exact hno line hwhere hline

/-- What is told, if the lines are those of the output, is told by stream exactly if the ends of
the streams are apart. -/
theorem reportsByStream_find {early : List (List Char)}
    (hearly : ∀ line, line ∈ early ↔ line ∈ Text.ended (decodeLossy out) ∨
      line ∈ Text.ended (decodeLossy (LineBuffer.parts err).1)) :
    ReportsByStream out err
        (((early ++ meetingLine out err ::
          (Text.lines (decodeLossy (LineBuffer.parts err).2)).tail).find? isDaemonLine).map
            fun line => trimmed (String.ofList line)) ↔
      EndsApart out err := by
  rw [EndsApart, List.find?_append]
  cases hfound : early.find? isDaemonLine with
  | some line =>
      -- A line before the meeting line is told, and it is a line of one of the streams.
      have hline := List.find?_some hfound
      have hwhere := (hearly line).mp (List.mem_of_find?_eq_some hfound)
      have hmem : line ∈ daemonLines out err := mem_daemonLines.mpr ⟨hline, .inl hwhere⟩
      exact iff_of_true (reportsByStream_some.mpr ⟨line, hmem, rfl⟩) (.inl ⟨line, hline, hwhere⟩)
  | none =>
      have hnone : ¬ ∃ line, isDaemonLine line = true ∧ (line ∈ Text.ended (decodeLossy out) ∨
          line ∈ Text.ended (decodeLossy (LineBuffer.parts err).1)) := by
        rintro ⟨line, hline, hwhere⟩
        exact List.find?_eq_none.mp hfound line ((hearly line).mpr hwhere) hline
      rw [Option.none_or, or_iff_right hnone, List.find?_cons]
      cases hmeeting : isDaemonLine (meetingLine out err) with
      | true =>
          rw [if_pos rfl]
          exact reportsByStream_some
      | false =>
          rw [if_neg Bool.false_ne_true]
          exact reportsByStream_late hnone hmeeting

/-- Faults are told line by line of each stream exactly if it makes no difference that the end of
standard output and the end of the error output meet. This is so in particular if one of the
streams ends with a complete line, or is empty. -/
theorem reportsByStream_iff (p : Profile) (chunks : List Chunk) (exitCode : Option Int) :
    let out := Stream.stdout.bytes chunks
    let err := Stream.stderr.bytes chunks
    (ReportsByStream out err (Outcome.ofChunks p chunks exitCode).daemonError ↔
      EndsApart out err) ∧
    (Complete out ∨ Complete err → EndsApart out err) := by
  intro out err
  obtain ⟨early, hearly, hlines⟩ := lines_output_meetingLine p chunks exitCode
  refine ⟨?_, endsApart_of_complete⟩
  rw [daemonError_ofChunks, daemonError?_eq_find, hlines]
  exact reportsByStream_find hearly

/-- A fault on the error output is not told if standard output ends in the middle of a line. -/
theorem not_reportsByStream_meeting :
    let chunks : List Chunk :=
      [⟨.stdout, Utf8.encode "partial".toList⟩,
        ⟨.stderr, Utf8.encode "Error response from daemon: x".toList⟩]
    ¬ ReportsByStream (Stream.stdout.bytes chunks) (Stream.stderr.bytes chunks)
      (Outcome.ofChunks silentProfile chunks (some 1)).daemonError := by
  intro chunks h
  have houtput : (Outcome.ofChunks silentProfile chunks (some 1)).output =
      "partialError response from daemon: x" := by decide +kernel
  have hnothing : (Text.lines "partialError response from daemon: x".toList).find? isDaemonLine =
      none := by decide +kernel
  have hline : "Error response from daemon: x".toList ∈
      daemonLines (Stream.stdout.bytes chunks) (Stream.stderr.bytes chunks) := by decide +kernel
  have hsome := h.1.mpr ⟨_, hline⟩
  rw [daemonError_ofChunks, daemonError?_eq_find, houtput, hnothing] at hsome
  cases hsome

end ContainerLint
