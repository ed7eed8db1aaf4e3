import ContainerLint.Diagnostic

/-!
# Diagnostics in an editor

An editor marks a range of a document and shows a message with it. A diagnostic without a line is
shown on the first line.
-/

namespace ContainerLint

/-- A place in a document: a line and a character in it, both counted from zero. -/
structure EditorPosition where
  line : UInt32
  character : UInt32
deriving DecidableEq, Repr

/-- A diagnostic as an editor gets it. -/
structure EditorDiagnostic where
  start : EditorPosition
  stop : EditorPosition
  severity : Severity
  code : Option String
  source : String
  message : String
deriving DecidableEq, Repr

namespace EditorDiagnostic

/-- The number by which editors know a severity. -/
def severityNumber : Severity → Int
  | .error => 1
  | .warning => 2
  | .info => 3

/-- The diagnostic for an editor, with the name of where it comes from. -/
def ofDiagnostic (source : String) (d : Diagnostic) : EditorDiagnostic :=
  let line := d.line.getD 0
  ⟨⟨line, d.start⟩, ⟨line, d.stop⟩, d.severity, d.code, source, d.message⟩

/-- The diagnostics for an editor, in order. -/
def ofDiagnostics (source : String) (ds : List Diagnostic) : List EditorDiagnostic :=
  ds.map (ofDiagnostic source)

/-- A position as data. -/
def positionValue (p : EditorPosition) : Value :=
  .obj [("character", .int p.character.toNat), ("line", .int p.line.toNat)]

/-- The diagnostic as data; a code that is absent is left out. -/
def toValue (d : EditorDiagnostic) : Value :=
  .obj ((match d.code with | some code => [("code", Value.str code)] | none => []) ++
    [("message", .str d.message),
      ("range", .obj [("end", positionValue d.stop), ("start", positionValue d.start)]),
      ("severity", .int (severityNumber d.severity)),
      ("source", .str d.source)])

end EditorDiagnostic

end ContainerLint
