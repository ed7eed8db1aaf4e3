import ContainerLint.Value.Decode

/-!
# Diagnostics

A `Diagnostic` is one problem that a linter found, with its place in the linted text. Lines count
from zero. A diagnostic marks one column, or a whole line, which is said by a start of zero and
the largest possible end.
-/

namespace ContainerLint

/-- How bad a problem is. -/
inductive Severity
  | error | warning | info
deriving DecidableEq, Repr

namespace Severity

/-- The name of a severity. -/
def name : Severity → String
  | .error => "error"
  | .warning => "warning"
  | .info => "info"

/-- All severities, the worst first. -/
def all : List Severity := [.error, .warning, .info]

/-- The severity of the word that a linter printed. All but two words, and no word at all, mean
an error. -/
def ofToken : Option String → Severity
  | some token =>
    if token = "warning" then .warning else if token = "info" then .info else .error
  | none => .error

/-- The severity of a name. -/
def named (name : String) : Decoded Severity :=
  match all.find? fun s => s.name = name with
  | some s => .ok s
  | none => .error (.unknownVariant name (all.map Severity.name))

/-- Reads a severity: its name, or an object with the name as its only key and `null` there. -/
def decode : Value → Decoded Severity
  | .str name => named name
  | .obj [(name, v)] => do
    let s ← named name
    match v with
    | .null => .ok s
    | v => Decode.wrongType v "unit"
  | .obj _ => .error (.invalidValue "map" "map with a single key")
  | v => Decode.wrongType v "string or map"

/-- The severity as data. -/
def toValue (s : Severity) : Value := .str s.name

end Severity

/-- The end of a diagnostic for a whole line. -/
def wholeLineEnd : UInt32 := 4294967295

/-- A problem and its place. The line is absent when the linter printed none that counts. -/
structure Diagnostic where
  line : Option UInt32
  start : UInt32
  stop : UInt32
  severity : Severity
  message : String
  code : Option String
deriving DecidableEq, Repr

namespace Diagnostic

/-- The diagnostic of a whole line. -/
def wholeLine (line : UInt32) (severity : Severity) (message : String) : Diagnostic :=
  ⟨some line, 0, wholeLineEnd, severity, message, none⟩

/-- Whether the diagnostic is for a whole line. -/
def isWholeLine (d : Diagnostic) : Bool := d.start = 0 && d.stop = wholeLineEnd

/-- Whether the diagnostic is an error. -/
def isError (d : Diagnostic) : Bool := d.severity = .error

/-- The diagnostic as data; a code that is absent is left out. -/
def toValue (d : Diagnostic) : Value :=
  .obj ([
    ("line", match d.line with | some n => .int n.toNat | none => .null),
    ("start", .int d.start.toNat),
    ("end", .int d.stop.toNat),
    ("severity", d.severity.toValue),
    ("message", .str d.message)] ++
    match d.code with
    | some code => [("code", .str code)]
    | none => [])

/-- Reads a diagnostic. In an array the line has to be there, if only as `null`. -/
def decode (v : Value) : Decoded Diagnostic :=
  Decode.record "Diagnostic"
    [("line", Decode.check (Decode.option Decode.word32)),
      ("start", Decode.check Decode.word32),
      ("end", Decode.check Decode.word32),
      ("severity", Decode.check Severity.decode),
      ("message", Decode.check Decode.text),
      ("code", Decode.check (Decode.option Decode.text))]
    (fun fields => do
      let line ←
        match v with
        | .arr _ => fields.required 0 "line" (Decode.option Decode.word32)
        | _ => fields.optional 0 "line" Decode.word32
      let start ← fields.required 1 "start" Decode.word32
      let stop ← fields.required 2 "end" Decode.word32
      let severity ← fields.required 3 "severity" Severity.decode
      let message ← fields.required 4 "message" Decode.text
      let code ← fields.optional 5 "code" Decode.text
      .ok ⟨line, start, stop, severity, message, code⟩)
    v

end Diagnostic

end ContainerLint
