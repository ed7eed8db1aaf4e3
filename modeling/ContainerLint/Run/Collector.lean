import ContainerLint.Profile
import ContainerLint.Run.Chunk
import ContainerLint.Run.DaemonError
import ContainerLint.Run.LineBuffer

/-!
# Collecting the output of a run

A `Collector` takes what a linter prints, piece by piece from two streams, and makes an `Outcome`
of it when the linter has ended. Each stream is read as a whole, so it does not matter how its
pieces were cut.
-/

namespace ContainerLint

/-- What is known after a run: the diagnostics, the fault that docker reported of its own, the
exit code (none after a signal), and the output of both streams as it came in. -/
structure Outcome where
  diagnostics : List Diagnostic
  daemonError : Option String
  exitCode : Option Int
  output : String
deriving DecidableEq, Repr

/-- The diagnostic that tells how a linter ended and what it printed. -/
def exitStatusDiagnostic (profile : String) (exitCode : Option Int) (output : String) :
    Diagnostic :=
  let status :=
    match exitCode with
    | some code => profile ++ " exited with code " ++ toString code
    | none => profile ++ " was terminated by a signal"
  let printed := trimmedEnd output
  .wholeLine 0 .info (if printed.isEmpty then status else status ++ "\n\n" ++ printed)

/-- The text of one stream: the lines that are complete, and the bytes after them. -/
structure StreamText where
  buffer : LineBuffer
  text : String
deriving DecidableEq, Repr

namespace StreamText

/-- A stream on which nothing came. -/
def empty : StreamText := ⟨.empty, ""⟩

/-- Takes bytes; gives the lines that are complete now. -/
def push (s : StreamText) (bytes : List UInt8) : StreamText × String :=
  match s.buffer.push bytes with
  | (buffer, some lines) => (⟨buffer, s.text ++ lines⟩, lines)
  | (buffer, none) => (⟨buffer, s.text⟩, "")

/-- Ends the stream; gives what was after the last line. -/
def finish (s : StreamText) : StreamText × String :=
  match s.buffer.finish with
  | (buffer, some rest) => (⟨buffer, s.text ++ rest⟩, rest)
  | (buffer, none) => (⟨buffer, s.text⟩, "")

end StreamText

/-- The output of a run so far. -/
structure Collector where
  stdout : StreamText
  stderr : StreamText
  output : String
deriving DecidableEq, Repr

namespace Collector

/-- No output. -/
def empty : Collector := ⟨.empty, .empty, ""⟩

/-- Takes a piece of output. -/
def push (c : Collector) (chunk : Chunk) : Collector :=
  match chunk.stream with
  | .stdout =>
    let (s, lines) := c.stdout.push chunk.bytes
    { c with stdout := s, output := c.output ++ lines }
  | .stderr =>
    let (s, lines) := c.stderr.push chunk.bytes
    { c with stderr := s, output := c.output ++ lines }

/-- The outcome of a run of a profile that ended with an exit code. Diagnostics come from the
standard output first, then from the error output; the exit status is reported last, unless docker
reported a fault of its own. -/
def finish (c : Collector) (profile : Profile) (exitCode : Option Int) : Outcome :=
  let (out, outRest) := c.stdout.finish
  let (err, errRest) := c.stderr.finish
  let output := c.output ++ outRest ++ errRest
  let daemonError := daemonError? output
  let extracted := profile.extractor.extract out.text ++ profile.extractor.extract err.text
  let status :=
    if daemonError.isNone && profile.reportExitStatus then
      [exitStatusDiagnostic profile.linter.name exitCode output]
    else []
  ⟨extracted ++ status, daemonError, exitCode, output⟩

end Collector

/-- The outcome of a run that printed the given pieces. -/
def Outcome.ofChunks (profile : Profile) (chunks : List Chunk)
    (exitCode : Option Int) : Outcome :=
  (chunks.foldl Collector.push .empty).finish profile exitCode

end ContainerLint
