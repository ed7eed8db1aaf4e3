import ContainerLint.CommandLine.Request
import ContainerLint.Diagnostic
import ContainerLint.Json.Writer
import ContainerLint.Linter

/-!
# Reports

How diagnostics are printed: one line for each with its place in front, or as JSON. Lines are
counted from one here, as a reader counts them.
-/

namespace ContainerLint.CommandLine

/-- The ways in which a word is set off on a terminal. -/
inductive Style
  | error | warning | info | strong
deriving DecidableEq, Repr

/-- The code by which a terminal switches a style on. -/
def Style.code : Style → String
  | .error => "1;31"
  | .warning => "1;33"
  | .info => "1;34"
  | .strong => "1"

/-- A word in a style, if the terminal shows styles. -/
def painted (coloured : Bool) (style : Style) (word : String) : String :=
  if coloured then "\x1b[" ++ style.code ++ "m" ++ word ++ "\x1b[0m" else word

/-- The style of a severity. -/
def severityStyle : Severity → Style
  | .error => .error
  | .warning => .warning
  | .info => .info

/-- The place of a diagnostic: the source, the line, which may be unknown, and the column unless a
whole line is meant. -/
def place (source : String) (d : Diagnostic) : String :=
  let line :=
    match d.line with
    | some n => toString (n.toNat + 1)
    | none => "?"
  let lineOf := source ++ ":" ++ line
  if d.isWholeLine then lineOf else lineOf ++ ":" ++ toString d.start.toNat

/-- The code of a diagnostic in brackets; nothing if it has none. -/
def bracketed : Option String → String
  | some code => "[" ++ code ++ "]"
  | none => ""

/-- The line of a diagnostic. -/
def reportLine (coloured : Bool) (source : String) (d : Diagnostic) : String :=
  place source d ++ ": " ++ painted coloured (severityStyle d.severity) d.severity.name ++
    bracketed d.code ++ ": " ++ d.message ++ "\n"

/-- The lines of diagnostics, in order. -/
def renderText (coloured : Bool) (source : String) (ds : List Diagnostic) : String :=
  String.join (ds.map (reportLine coloured source))

/-- The diagnostics of a source as JSON. -/
def renderJson (source : String) (linter : Linter) (ds : List Diagnostic) : String :=
  Json.pretty (.obj [("source", .str source), ("profile", .str linter.name),
    ("diagnostics", .arr (ds.map Diagnostic.toValue))])

/-- How many errors and warnings there are. -/
def summary (ds : List Diagnostic) : String :=
  toString (ds.countP Diagnostic.isError) ++ " error(s), " ++
    toString (ds.countP fun d => d.severity = .warning) ++ " warning(s)"

/-- What is built in for a linter. -/
def listed (coloured : Bool) (linter : Linter) : String :=
  let command := String.intercalate " " linter.command
  painted coloured .strong linter.name ++ "\n" ++
    "  command: " ++ String.ofList (Text.escaped command.toList) ++ "\n" ++
    "  pattern: " ++ linter.rule.pattern ++ "\n"

/-- What is built in for all linters. -/
def listing (coloured : Bool) : String := String.join (Linter.all.map (listed coloured))

end ContainerLint.CommandLine
