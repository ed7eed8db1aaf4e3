import ContainerLint.Text.Blank

/-!
# Linters

The linters that are known, and what is built in for each: the command that runs it on its
standard input, and how to read the lines that it prints.
-/

namespace ContainerLint

/-- A linter that is known. -/
inductive Linter
  | perl | perlcritic | flake8 | rubocop | php
deriving DecidableEq, Repr

/-- What a pattern with groups says about the lines that it matches: which group holds the line
number, and where the other parts of a diagnostic stand. Groups count from one; group zero is the
whole match. -/
structure ExtractionRule where
  pattern : String
  lineGroup : UInt64
  columnGroup : Option UInt64
  severityGroup : Option UInt64
  messageGroup : UInt64
  codeGroup : Option UInt64
deriving DecidableEq, Repr

namespace Linter

/-- The linters in the order in which they are listed. -/
def all : List Linter := [.perl, .perlcritic, .flake8, .rubocop, .php]

/-- The name of a linter. -/
def name : Linter → String
  | .perl => "perl"
  | .perlcritic => "perlcritic"
  | .flake8 => "flake8"
  | .rubocop => "rubocop"
  | .php => "php"

/-- The names of all linters. -/
def names : String := String.intercalate ", " (all.map name)

/-- The linter of a name; blanks around the name and the case of its ASCII letters do not
matter. -/
def named? (text : String) : Option Linter :=
  let key := (Text.trim text.toList).map Char.toLower
  all.find? fun l => l.name.toList = key

/-- The command that runs a linter. -/
def command : Linter → List String
  | .perl => ["perl", "-c"]
  | .perlcritic => ["perlcritic", "--nocolor", "--verbose", "%l:%c:%s:%p:%m\n"]
  | .flake8 => ["flake8", "-"]
  | .rubocop => ["rubocop", "--format", "emacs", "--stdin", "stdin.rb"]
  | .php => ["php", "-l"]

/-- How the lines of a linter are read. -/
def rule : Linter → ExtractionRule
  | .perl => ⟨"^(.+) at - line (\\d+)", 2, none, none, 1, none⟩
  | .perlcritic => ⟨"^(\\d+):(\\d+):(\\d):([\\w:]+):(.+)$", 1, some 2, none, 5, some 4⟩
  | .flake8 => ⟨"^stdin:(\\d+):(\\d+): (\\w\\d+) (.+)$", 1, some 2, none, 4, some 3⟩
  | .rubocop =>
    ⟨"^.+?:(\\d+):(\\d+): (\\w): (?:\\[Correctable\\] )?(.+)$", 1, some 2, none, 4, some 3⟩
  | .php =>
    ⟨"^(?:PHP )?(?:Parse|Fatal) error:\\s+(.+) in (?:-|Standard input code) on line (\\d+)",
      2, none, none, 1, none⟩

end Linter

end ContainerLint
