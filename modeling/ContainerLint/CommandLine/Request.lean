/-!
# Requests of the command line

What a user can ask for on the command line, and the options by which the details are given.
-/

namespace ContainerLint.CommandLine

/-- The forms in which diagnostics are printed. -/
inductive ReportFormat
  | text | json
deriving DecidableEq, Repr

namespace ReportFormat

/-- The name of a form. -/
def name : ReportFormat → String
  | .text => "text"
  | .json => "json"

/-- The form of a name. -/
def named? (name : String) : Option ReportFormat :=
  [ReportFormat.text, ReportFormat.json].find? fun f => f.name = name

end ReportFormat

/-- The options that take a value. -/
inductive ValueOption
  | config | profile | container | docker | machine | format
deriving DecidableEq, Repr

namespace ValueOption

/-- The long name of an option. -/
def name : ValueOption → String
  | .config => "config"
  | .profile => "profile"
  | .container => "container"
  | .docker => "docker"
  | .machine => "machine"
  | .format => "format"

/-- The letter of an option, if it has one. -/
def letter? : ValueOption → Option Char
  | .config => some 'c'
  | .profile => some 'p'
  | .format => some 'f'
  | _ => none

/-- Whether an option can have a value. Paths are not empty, and a form is one that is known. -/
def accepts : ValueOption → String → Bool
  | .config, value => !value.isEmpty
  | .docker, value => !value.isEmpty
  | .format, value => (ReportFormat.named? value).isSome
  | _, _ => true

end ValueOption

/-- The parts of a command line: what stands before the command, and what belongs to each
command. -/
inductive Part
  | general | check | parse | profiles
deriving DecidableEq, Repr

namespace Part

/-- The part that the name of a command starts. -/
def ofCommand? : String → Option Part
  | "check" => some .check
  | "parse" => some .parse
  | "profiles" => some .profiles
  | _ => none

/-- The options with a value that can stand in a part. -/
def options : Part → List ValueOption
  | .general => [.config]
  | .check => [.config, .profile, .container, .docker, .machine, .format]
  | .parse => [.config, .profile, .format]
  | .profiles => [.config]

/-- The most operands that can stand in a part. -/
def operandLimit : Part → Nat
  | .general => 0
  | .check => 1
  | .parse => 1
  | .profiles => 0

end Part

/-- The request to run a linter on a file. -/
structure CheckRequest where
  file : String
  profile : Option String
  container : Option String
  docker : Option String
  machine : Option String
  format : ReportFormat
deriving DecidableEq, Repr

/-- The request to read what a linter printed, from a file or from the standard input. -/
structure ParseRequest where
  input : Option String
  profile : Option String
  format : ReportFormat
deriving DecidableEq, Repr

/-- What a user asks for. -/
inductive Command
  | check (request : CheckRequest)
  | parse (request : ParseRequest)
  | profiles
deriving DecidableEq, Repr

/-- A request: for the version of the program, or for a command under settings that may come from
a file that is named. -/
inductive Request
  | version
  | run (command : Command) (config : Option String)
deriving DecidableEq, Repr

end ContainerLint.CommandLine
