import ContainerLint.CommandLine.Request

/-!
# Reading the arguments

`Request.ofArguments?` reads a command line from left to right. An argument gives one mark or, as
a cluster of letters, several; a mark that is out of place makes the command line unreadable, but
a request for the version counts as soon as it is reached.
-/

namespace ContainerLint.CommandLine

/-- What an argument says: to tell more or the version, an option with its value, an option whose
value is the next argument, or nothing that is known. -/
inductive Mark
  | verbose
  | version
  | assigns (o : ValueOption) (text : String)
  | awaits (o : ValueOption)
  | unknown
deriving DecidableEq, Repr

namespace Mark

/-- The mark of a name without a value. -/
def ofFlag? (part : Part) (name : String) : Option Mark :=
  if name = "verbose" then some .verbose
  else if name = "version" ∧ part = .general then some .version
  else none

/-- Cuts a text at its first equals sign. -/
def cutValue (text : List Char) : String × Option String :=
  let (name, rest) := text.span (· ≠ '=')
  (String.ofList name,
    match rest with
    | _ :: value => some (String.ofList value)
    | [] => none)

/-- The mark of an argument with a long name, from the text after its two dashes. -/
def ofName (part : Part) (text : List Char) : Mark :=
  match cutValue text with
  | (name, value) =>
    match part.options.find? fun o => o.name = name, value with
    | some o, some v => .assigns o v
    | some o, none => .awaits o
    | none, some _ => .unknown
    | none, none => (ofFlag? part name).getD .unknown

/-- The mark of a letter that takes no value. -/
def ofLetter? (part : Part) (c : Char) : Option Mark :=
  if c = 'v' then some .verbose
  else if c = 'V' ∧ part = .general then some .version
  else none

/-- The mark of an option by its letter, with the rest of the argument as its value. -/
def ofTail (o : ValueOption) : List Char → Mark
  | [] => .awaits o
  | '=' :: value => .assigns o (String.ofList value)
  | value => .assigns o (String.ofList value)

/-- The marks of a cluster of letters, from the text after its dash. -/
def ofCluster (part : Part) : List Char → List Mark
  | [] => []
  | c :: rest =>
    match ofLetter? part c with
    | some m => m :: ofCluster part rest
    | none =>
      match part.options.find? fun o => o.letter? = some c with
      | some o => [ofTail o rest]
      | none => [.unknown]

/-- The marks of an argument; none if it is no option but a text of its own. -/
def ofArgument? (part : Part) (text : String) : Option (List Mark) :=
  match text.toList with
  | '-' :: '-' :: name => some [ofName part name]
  | '-' :: c :: rest => some (ofCluster part (c :: rest))
  | _ => none

end Mark

/-- What was read of a part: the values of options, the operands, and the option that waits for
its value. -/
structure PartValues where
  values : List (ValueOption × String)
  operands : List String
  awaiting : Option ValueOption
deriving DecidableEq, Repr

/-- What comes of reading a part: it is unreadable, the version is asked for, a command begins, or
the arguments are at their end. -/
inductive PartReading
  | unreadable
  | version
  | command (read : PartValues) (part : Part) (rest : List String)
  | complete (read : PartValues)
deriving DecidableEq, Repr

namespace PartValues

/-- Nothing read. -/
def empty : PartValues := ⟨[], [], none⟩

/-- Gives an option its value, once. -/
def set? (p : PartValues) (o : ValueOption) (text : String) : Option PartValues :=
  if (p.values.lookup o).isSome || !o.accepts text then none
  else some { p with values := p.values ++ [(o, text)], awaiting := none }

/-- Adds an operand, which is a path and not empty. -/
def operand? (p : PartValues) (part : Part) (text : String) : Option PartValues :=
  if p.operands.length < part.operandLimit ∧ text ≠ "" then
    some { p with operands := p.operands ++ [text] }
  else none

/-- Takes the marks of an argument. No mark can stand where a value is awaited. -/
def mark (p : PartValues) : List Mark → Except PartReading PartValues
  | [] => .ok p
  | m :: rest =>
    if p.awaiting.isSome then .error .unreadable
    else
      match m with
      | .unknown => .error .unreadable
      | .version => .error .version
      | .verbose => p.mark rest
      | .awaits o => mark { p with awaiting := some o } rest
      | .assigns o text =>
        match p.set? o text with
        | some p => p.mark rest
        | none => .error .unreadable

/-- Takes a text that is no option: the value that is awaited, or else an operand. -/
def plain (p : PartValues) (part : Part) (text : String) : Option PartValues :=
  match p.awaiting with
  | some o => p.set? o text
  | none => p.operand? part text

end PartValues

/-- Reads the operands after two dashes. -/
def readOperands (part : Part) (p : PartValues) : List String → PartReading
  | [] => if p.awaiting.isSome then .unreadable else .complete p
  | text :: rest =>
    match p.operand? part text with
    | some p => readOperands part p rest
    | none => .unreadable

/-- Reads a part of the arguments. A command can begin where no value is awaited. -/
def readPart (part : Part) (p : PartValues) : List String → PartReading
  | [] => if p.awaiting.isSome then .unreadable else .complete p
  | text :: rest =>
    match (if part = .general ∧ p.awaiting.isNone then Part.ofCommand? text else none) with
    | some next => .command p next rest
    | none =>
      if text = "--" then readOperands part p rest
      else
        match Mark.ofArgument? part text with
        | some marks =>
          match p.mark marks with
          | .ok p => readPart part p rest
          | .error reading => reading
        | none =>
          match p.plain part text with
          | some p => readPart part p rest
          | none => .unreadable

namespace PartValues

/-- The form of the report; plain text if none is given. -/
def reportFormat (p : PartValues) : ReportFormat :=
  ((p.values.lookup .format).bind ReportFormat.named?).getD .text

/-- The command that a part describes. A file to check must be given. -/
def command? (p : PartValues) : Part → Option Command
  | .general => none
  | .check =>
    p.operands.head?.map fun file =>
      .check ⟨file, p.values.lookup .profile, p.values.lookup .container,
        p.values.lookup .docker, p.values.lookup .machine, p.reportFormat⟩
  | .parse => some (.parse ⟨p.operands.head?, p.values.lookup .profile, p.reportFormat⟩)
  | .profiles => some .profiles

end PartValues

/-- Reads a command line; none if it is unreadable. Settings that are named after the command go
before those that are named in front of it. -/
def Request.ofArguments? (arguments : List String) : Option Request :=
  match readPart .general .empty arguments with
  | .version => some .version
  | .command general part rest =>
    match readPart part .empty rest with
    | .complete own =>
      (own.command? part).map fun command =>
        .run command (own.values.lookup .config <|> general.values.lookup .config)
    | _ => none
  | _ => none

end ContainerLint.CommandLine
