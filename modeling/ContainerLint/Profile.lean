import ContainerLint.Extraction

/-!
# Profiles

A profile runs one linter. `ProfileSettings` holds what the user changed about it, every field
being optional; `ProfileSettings.resolve` checks all that is needed to run it and gives the
`Profile` that is ready to run.
-/

namespace ContainerLint

/-- A command as it is written: one text, which is split at blanks, or a list of arguments. -/
inductive CommandSpec
  | line (text : String)
  | arguments (items : List String)
deriving DecidableEq, Repr

/-- The arguments of a command, the program first. -/
def CommandSpec.toList : CommandSpec → List String
  | .line text => wordsOf text
  | .arguments items => items

/-- The changes to a profile. -/
structure ProfileSettings where
  container : Option String
  command : Option CommandSpec
  pattern : Option String
  lineGroup : Option UInt64
  columnGroup : Option UInt64
  severityGroup : Option UInt64
  messageGroup : Option UInt64
  codeGroup : Option UInt64
  reportExitStatus : Option Bool
deriving DecidableEq, Repr

/-- A profile that is ready to run. -/
structure Profile where
  linter : Linter
  container : String
  command : List String
  extractor : Extractor
  reportExitStatus : Bool

namespace ProfileSettings

/-- No changes. -/
def unchanged : ProfileSettings := ⟨none, none, none, none, none, none, none, none, none⟩

/-- The rule of a profile. A changed pattern makes the built-in groups meaningless, so that its
line and message groups must be given and no other is taken over; with the built-in pattern each
group can be changed by itself. -/
def rule (s : ProfileSettings) (linter : Linter) : Except ConfigFault ExtractionRule :=
  match s.pattern with
  | some pattern =>
    match s.lineGroup, s.messageGroup with
    | none, _ => .error (.missingGroup linter .line)
    | some _, none => .error (.missingGroup linter .message)
    | some lineGroup, some messageGroup =>
      .ok ⟨pattern, lineGroup, s.columnGroup, s.severityGroup, messageGroup, s.codeGroup⟩
  | none =>
    let r := linter.rule
    .ok
      { pattern := r.pattern
        lineGroup := s.lineGroup.getD r.lineGroup
        columnGroup := s.columnGroup <|> r.columnGroup
        severityGroup := s.severityGroup <|> r.severityGroup
        messageGroup := s.messageGroup.getD r.messageGroup
        codeGroup := s.codeGroup <|> r.codeGroup }

/-- The command of a profile. -/
def arguments (s : ProfileSettings) (linter : Linter) : List String :=
  match s.command with
  | some spec => spec.toList
  | none => linter.command

/-- The extractor of a profile, which needs no container. -/
def extractor (s : ProfileSettings) (linter : Linter) : Except ConfigFault Extractor := do
  let r ← s.rule linter
  r.compile

/-- The container of a profile, without blanks around it; none if nothing is left. -/
def containerName (s : ProfileSettings) : Option String :=
  match s.container with
  | some text => if (trimmed text).isEmpty then none else some (trimmed text)
  | none => none

/-- Checks all that is needed to run a profile. -/
def resolve (s : ProfileSettings) (linter : Linter) : Except ConfigFault Profile :=
  match s.containerName with
  | none => .error (.missingContainer linter)
  | some container =>
    let command := s.arguments linter
    if command.isEmpty then .error (.emptyCommand linter)
    else do
      let extractor ← s.extractor linter
      .ok ⟨linter, container, command, extractor, s.reportExitStatus.getD true⟩

end ProfileSettings

end ContainerLint
