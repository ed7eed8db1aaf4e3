import ContainerLint.Text.Blank
import ContainerLint.Text.Property.Binary
import ContainerLint.Text.Property.Category
import ContainerLint.Pattern.Syntax
import ContainerLint.Pattern.Error

/-!
# Reading patterns

`Ast.read` reads a pattern from its characters. It keeps the groups and classes that are still
open on a stack and takes one part after the other, so every round shortens the text that is left.
Where blanks are ignored, blanks and comments between parts are skipped.
-/

namespace ContainerLint.Pattern

open ContainerLint.Text

/-- The outcome of a step of reading. -/
abbrev Reads (α : Type) := Except SyntaxFault α

namespace Reader

/-- Skips blanks and comments, `comment` saying that the text starts inside a comment. -/
def skipIgnored (comment : Bool) : List Char → List Char
  | [] => []
  | c :: rest =>
    if comment then skipIgnored (c ≠ '\n') rest
    else if isBlank c then skipIgnored false rest
    else if c = '#' then skipIgnored true rest
    else c :: rest

/-- Skips blanks and comments if they are ignored. -/
def skip (ignoring : Bool) (text : List Char) : List Char :=
  if ignoring then skipIgnored false text else text

/-- Drops the first character and what is ignored after it. -/
def advance (ignoring : Bool) (text : List Char) : List Char := skip ignoring (text.drop 1)

/-- The character that follows the first one, ignored text left out. Only the first hash sign
is passed over; where nothing follows, the character right after the first one counts. -/
def peek (ignoring : Bool) (text : List Char) : Option Char :=
  let after := text.drop 1
  if ignoring then
    match after.dropWhile isBlank with
    | [] => after.head?
    | '#' :: rest =>
      match rest.dropWhile isBlank with
      | [] => after.head?
      | c :: _ => some c
    | c :: _ => some c
  else after.head?

/-- Takes the leading characters that satisfy `p`, skipping ignored text after each. -/
def collect (ignoring : Bool) (p : Char → Bool) : Nat → List Char → List Char × List Char
  | 0, text => ([], text)
  | _ + 1, [] => ([], [])
  | fuel + 1, c :: rest =>
    if p c then
      let (taken, left) := collect ignoring p fuel (skip ignoring rest)
      (c :: taken, left)
    else ([], c :: rest)

/-- The value of a hexadecimal digit. -/
def hexDigit? (c : Char) : Option Nat :=
  if '0' ≤ c ∧ c ≤ '9' then some (c.toNat - 48)
  else if 'a' ≤ c ∧ c ≤ 'f' then some (c.toNat - 87)
  else if 'A' ≤ c ∧ c ≤ 'F' then some (c.toNat - 55)
  else none

/-- The character with the given code, surrogates excluded. -/
def charOfCode? (code : Nat) : Option Char :=
  if code < 0xD800 ∨ (0xDFFF < code ∧ code < 0x110000) then some (Char.ofNat code) else none

/-- The character that hexadecimal digits name. -/
def charOfHex? (digits : List Char) : Option Char := do
  let values ← digits.mapM hexDigit?
  charOfCode? (values.foldl (fun n d => n * 16 + d) 0)

/-- Takes `n` hexadecimal digits, ignored text allowed between them. -/
def takeHex (ignoring : Bool) : Nat → List Char → Reads (List Char × List Char)
  | 0, text => .ok ([], text)
  | _ + 1, [] => .error .unclosedEscape
  | n + 1, c :: rest =>
    if (hexDigit? c).isNone then .error .badHex
    else do
      let (digits, left) ← takeHex ignoring n (skip ignoring rest)
      .ok (c :: digits, left)

/-- Reads a character by its hexadecimal code; `text` follows the letter of the escape, and
`digits` is the number of digits where there are no braces. -/
def hexChar (ignoring : Bool) (digits : Nat) (text : List Char) : Reads (Atom × List Char) :=
  match skip ignoring text with
  | [] => .error .unclosedEscape
  | '{' :: rest =>
    let (name, left) := collect ignoring (· ≠ '}') (rest.length + 1) (skip ignoring rest)
    if name.any fun c => (hexDigit? c).isNone then .error .badHex
    else
      match left with
      | [] => .error .unclosedEscape
      | _ :: left =>
        if name.isEmpty then .error .badHex
        else
          match charOfHex? name with
          | some c => .ok (.char c false, skip ignoring left)
          | none => .error .badHex
  | start => do
    let (name, left) ← takeHex ignoring digits start
    match charOfHex? name with
    | some c => .ok (.char c (digits = 2), left)
    | none => .error .badHex

/-- Cuts `text` at the first place where `mark` stands. -/
def cutAt (mark : List Char) : List Char → Option (List Char × List Char)
  | [] => none
  | c :: rest =>
    if mark.isPrefixOf (c :: rest) then some ([], (c :: rest).drop mark.length)
    else (cutAt mark rest).map fun (a, b) => (c :: a, b)

/-- The query that the text between the braces of a property stands for. -/
def queryOf (name : List Char) : PropertyQuery :=
  match cutAt ['!', '='] name with
  | some (key, value) => .valued key value
  | none =>
    match cutAt [':'] name with
    | some (key, value) => .valued key value
    | none =>
      match cutAt ['='] name with
      | some (key, value) => .valued key value
      | none => .named name

/-- Reads the name of a property; `text` follows the letter of the escape. -/
def property (ignoring negated : Bool) (text : List Char) : Reads (Atom × List Char) :=
  match skip ignoring text with
  | [] => .error .unclosedEscape
  | '{' :: rest =>
    let (name, left) := collect ignoring (· ≠ '}') (rest.length + 1) (skip ignoring rest)
    match left with
    | [] => .error .unclosedEscape
    | _ :: left => .ok (.property negated (queryOf name), left)
  | '\\' :: _ => .error .badPropertyName
  | c :: rest => .ok (.property negated (.letter c), skip ignoring rest)

/-- Whether `c` can stand in the name of a word edge. -/
def isEdgeNameChar (c : Char) : Bool := c.isAlpha || c = '-'

/-- Reads what follows the escape of a word edge: a name in braces narrows it down. Braces that
hold no name are left for a count. -/
def wordEdge (ignoring : Bool) (text : List Char) : Reads (Atom × List Char) :=
  let plain := Atom.assertion (.word .either)
  match text with
  | '{' :: rest =>
    match skip ignoring rest with
    | [] => .error .unclosedEscape
    | c :: inner =>
      if isEdgeNameChar c then
        let (name, left) := collect ignoring isEdgeNameChar (inner.length + 2) (c :: inner)
        match left with
        | '}' :: left =>
          if name = "start".toList then .ok (.assertion (.word .start), left)
          else if name = "end".toList then .ok (.assertion (.word .stop), left)
          else if name = "start-half".toList then .ok (.assertion (.word .startHalf), left)
          else if name = "end-half".toList then .ok (.assertion (.word .stopHalf), left)
          else .error .unknownWordEdge
        | _ => .error .unknownWordEdge
      else .ok (plain, text)
  | _ => .ok (plain, text)

/-- Whether an escaped `c` stands for itself: ASCII characters other than letters, figures and
the two angle brackets. -/
def escapesToItself (c : Char) : Bool :=
  c.toNat < 128 && !c.isAlphanum && c ≠ '<' && c ≠ '>'

/-- Reads what follows a backslash. -/
def escape (ignoring : Bool) : List Char → Reads (Atom × List Char)
  | [] => .error .unclosedEscape
  | c :: rest =>
    let char (d : Char) : Reads (Atom × List Char) := .ok (.char d false, rest)
    let place (a : Assertion) : Reads (Atom × List Char) := .ok (.assertion a, rest)
    match c with
    | 'x' => hexChar ignoring 2 rest
    | 'u' => hexChar ignoring 4 rest
    | 'U' => hexChar ignoring 8 rest
    | 'p' => property ignoring false rest
    | 'P' => property ignoring true rest
    | 'd' => .ok (.shorthand false .digit, rest)
    | 'D' => .ok (.shorthand true .digit, rest)
    | 's' => .ok (.shorthand false .space, rest)
    | 'S' => .ok (.shorthand true .space, rest)
    | 'w' => .ok (.shorthand false .word, rest)
    | 'W' => .ok (.shorthand true .word, rest)
    | 'a' => char '\x07'
    | 'f' => char '\x0c'
    | 't' => char '\t'
    | 'n' => char '\n'
    | 'r' => char '\r'
    | 'v' => char '\x0b'
    | 'A' => place .textStart
    | 'z' => place .textEnd
    | 'b' => wordEdge ignoring rest
    | 'B' => place (.word .neither)
    | '<' => place (.word .start)
    | '>' => place (.word .stop)
    | c =>
      if c.isDigit then .error .backReference
      else if escapesToItself c then char c
      else .error .unknownEscape

/-! ## Bracketed classes -/

/-- The ASCII class of a name. -/
def asciiClass? (name : List Char) : Option AsciiClass :=
  match String.ofList name with
  | "alnum" => some .alnum
  | "alpha" => some .alpha
  | "ascii" => some .ascii
  | "blank" => some .blank
  | "cntrl" => some .cntrl
  | "digit" => some .digit
  | "graph" => some .graph
  | "lower" => some .lower
  | "print" => some .print
  | "punct" => some .punct
  | "space" => some .space
  | "upper" => some .upper
  | "word" => some .word
  | "xdigit" => some .xdigit
  | _ => none

/-- Reads a named ASCII class; `text` follows its opening bracket. -/
def asciiMember? (text : List Char) : Option (SetExpr × List Char) :=
  match text with
  | ':' :: rest =>
    let (negated, rest) :=
      match rest with
      | '^' :: r => (true, r)
      | r => (false, r)
    let name := rest.takeWhile (· ≠ ':')
    match rest.dropWhile (· ≠ ':') with
    | ':' :: ']' :: left => (asciiClass? name).map fun k => (.ascii negated k, left)
    | _ => none
  | _ => none

/-- A class that is being read: its members so far, the latest first, the operation whose right
side they belong to, and whether the class is negated. -/
structure OpenClass where
  negated : Bool
  members : List SetExpr
  pending : Option (SetOp × SetExpr)

/-- The members with the operation before them applied. -/
def OpenClass.close (c : OpenClass) : SetExpr :=
  let right := SetExpr.ofMembers c.members.reverse
  match c.pending with
  | some (kind, left) => .op kind left right
  | none => right

/-- Takes the hyphens at the start of a class. -/
def leadingHyphens (ignoring : Bool) (members : List SetExpr) :
    Nat → List Char → Reads (List SetExpr × List Char)
  | 0, text => .ok (members, text)
  | _ + 1, [] => .error .unclosedClass
  | fuel + 1, c :: rest =>
    if c = '-' then leadingHyphens ignoring (.char '-' false :: members) fuel (skip ignoring rest)
    else .ok (members, c :: rest)

/-- Reads the start of a class; `text` follows its opening bracket. A bracket that closes
right away is a member. -/
def openClass (ignoring : Bool) (text : List Char) : Reads (OpenClass × List Char) :=
  match skip ignoring text with
  | [] => .error .unclosedClass
  | c :: rest => do
    let (negated, start) := if c = '^' then (true, skip ignoring rest) else (false, c :: rest)
    let (members, start) ← leadingHyphens ignoring [] (start.length + 1) start
    match members, start with
    | [], ']' :: rest =>
      match skip ignoring rest with
      | [] => .error .unclosedClass
      | left => .ok (⟨negated, [.char ']' false], none⟩, left)
    | members, start => .ok (⟨negated, members, none⟩, start)

/-- Reads one member of a class, which may turn out to be the end of a range. -/
def classAtom (ignoring : Bool) : List Char → Reads (Atom × List Char)
  | [] => .error .unclosedClass
  | '\\' :: rest => escape ignoring rest
  | c :: rest => .ok (.char c false, rest)

/-- The member that an atom stands for. -/
def memberOf : Atom → Reads SetExpr
  | .char c raw => .ok (.char c raw)
  | .shorthand negated s => .ok (.shorthand negated s)
  | .property negated query => .ok (.property negated query)
  | _ => .error .badClassMember

/-- Reads a member or a range of a class. -/
def classMember (ignoring : Bool) (text : List Char) : Reads (SetExpr × List Char) := do
  let (first, left) ← classAtom ignoring text
  match skip ignoring left with
  | [] => .error .unclosedClass
  | c :: rest =>
    let after := peek ignoring (c :: rest)
    if c ≠ '-' ∨ after = some ']' ∨ after = some '-' then
      .ok ((← memberOf first), c :: rest)
    else
      match skip ignoring rest with
      | [] => .error .unclosedClass
      | start =>
        let (last, left) ← classAtom ignoring start
        match first, last with
        | .char lo loRaw, .char hi hiRaw =>
          if lo ≤ hi then .ok (.span lo loRaw hi hiRaw, left) else .error .badRange
        | _, _ => .error .badRange

/-- The operation whose sign starts the text. -/
def setOp? : List Char → Option SetOp
  | '&' :: '&' :: _ => some .inter
  | '-' :: '-' :: _ => some .diff
  | '~' :: '~' :: _ => some .symmDiff
  | _ => none

/-- Reads a class to its end; `current` is the innermost open class and `outer` those around
it, innermost first. -/
def classBody (ignoring : Bool) :
    Nat → OpenClass → List OpenClass → List Char → Reads (Ast × List Char)
  | 0, _, _, _ => .error .unclosedClass
  | fuel + 1, current, outer, text =>
    match skip ignoring text with
    | [] => .error .unclosedClass
    | '[' :: rest =>
      match asciiMember? rest with
      | some (m, left) =>
        classBody ignoring fuel { current with members := m :: current.members } outer left
      | none => do
        let (inner, left) ← openClass ignoring rest
        classBody ignoring fuel inner (current :: outer) left
    | ']' :: rest =>
      match outer with
      | [] => .ok (.set current.negated current.close, rest)
      | parent :: outer =>
        let m := SetExpr.bracket current.negated current.close
        classBody ignoring fuel { parent with members := m :: parent.members } outer rest
    | start =>
      match setOp? start with
      | some kind =>
        classBody ignoring fuel ⟨current.negated, [], some (kind, current.close)⟩ outer
          (start.drop 2)
      | none => do
        let (m, left) ← classMember ignoring start
        classBody ignoring fuel { current with members := m :: current.members } outer left

/-- Reads a class; `text` follows its opening bracket. -/
def classExpr (ignoring : Bool) (text : List Char) : Reads (Ast × List Char) := do
  let (start, left) ← openClass ignoring text
  classBody ignoring (left.length + 1) start [] left

/-! ## Counts -/

/-- Reads a decimal number with blanks around it. -/
def decimal (ignoring : Bool) (text : List Char) : List Char × List Char :=
  let start := text.dropWhile isBlank
  let (digits, left) := collect ignoring Char.isDigit (start.length + 1) start
  (digits, skip ignoring (left.dropWhile isBlank))

/-- The number that decimal digits stand for, if it is below 2³². -/
def countOf (digits : List Char) : Reads Nat :=
  if digits.isEmpty then .error .emptyCount
  else
    let n := digits.foldl (fun n d => n * 10 + (d.toNat - 48)) 0
    if n < 4294967296 then .ok n else .error .badCount

/-- Reads a count; `text` follows its opening brace. -/
def count (ignoring : Bool) (text : List Char) : Reads (Count × List Char) := do
  match skip ignoring text with
  | [] => .error .unclosedCount
  | start =>
    let (low, left) := decimal ignoring start
    let (found, left) ←
      match left with
      | [] => if low.isEmpty then .error .unclosedCount else do
          let _ ← countOf low
          .error .unclosedCount
      | ',' :: rest =>
        match skip ignoring rest with
        | [] => .error .unclosedCount
        | '}' :: rest => do
          let n ← countOf low
          .ok (Count.mk n none, '}' :: rest)
        | start => do
          let (high, left) := decimal ignoring start
          let n ← countOf low
          let m ← countOf high
          .ok (Count.mk n (some m), left)
      | left => do
        let n ← countOf low
        .ok (Count.mk n (some n), left)
    match left with
    | '}' :: rest =>
      match found.max with
      | some m => if found.min ≤ m then .ok (found, rest) else .error .countOrder
      | none => .ok (found, rest)
    | _ => .error .unclosedCount

/-! ## Groups and the whole pattern -/

/-- What the parenthesis that opens a group asks for. -/
inductive Opening
  | capture (index : Nat)
  | plain (changes : List FlagChange)

/-- A group that is being read: its finished branches and the parts of the branch at hand, the
latest first. -/
structure Level where
  branches : List Ast
  parts : List Ast

/-- The pattern of a group whose end is reached. -/
def Level.close (l : Level) : Ast :=
  Ast.ofBranches ((Ast.ofSequence l.parts.reverse) :: l.branches).reverse

/-- A group around the one at hand: what was read of it, how the inner group was opened, and
whether blanks are ignored after the inner group. -/
structure Outer where
  level : Level
  opening : Opening
  ignoring : Bool

/-- How far reading has come. -/
structure State where
  rest : List Char
  ignoring : Bool
  captures : Nat
  names : List (List Char)
  level : Level
  outer : List Outer

/-- Adds a part to the branch at hand. -/
def State.push (s : State) (part : Ast) (rest : List Char) : State :=
  { s with rest, level := { s.level with parts := part :: s.level.parts } }

/-- The switch that a letter stands for. -/
def flag? : Char → Option Flag
  | 'i' => some .caseless
  | 'm' => some .multiLine
  | 's' => some .dotAll
  | 'U' => some .swapGreed
  | 'u' => some .unicode
  | 'R' => some .crlf
  | 'x' => some .ignoreBlank
  | _ => none

/-- Reads the flags of a group up to the character that ends them. `negated` says that the
hyphen was read, `dangling` that it was the last character. -/
def flags (negated dangling : Bool) (found : List FlagChange) :
    List Char → Reads (List FlagChange × List Char)
  | [] => .error .unclosedGroup
  | c :: rest =>
    if c = ':' ∨ c = ')' then
      if dangling then .error .danglingNegation else .ok (found.reverse, c :: rest)
    else if c = '-' then
      if negated then .error .danglingNegation else flags true true found rest
    else
      match flag? c with
      | none => .error .unknownFlag
      | some f =>
        if found.any fun g => g.flag = f then .error .repeatedFlag
        else flags negated false (⟨f, !negated⟩ :: found) rest

/-- Whether blanks are ignored after the changes. -/
def ignoringAfter (ignoring : Bool) (changes : List FlagChange) : Bool :=
  match changes.find? fun g => g.flag = .ignoreBlank with
  | some g => g.on
  | none => ignoring

/-- Whether `c` is alphabetic. -/
def isAlphabetic (c : Char) : Bool :=
  if c.toNat < 128 then c.isAlpha
  else ((CharProperty.named "alphabetic" CharProperty.binaries).map (·.members.contains c)).getD
    false

/-- Whether `c` is alphabetic or numeric. -/
def isAlphanumeric (c : Char) : Bool :=
  if c.toNat < 128 then c.isAlphanum
  else isAlphabetic c ||
    ((CharProperty.named "number" CharProperty.categories).map (·.members.contains c)).getD false

/-- Whether `c` can stand in the name of a group, `first` telling if it opens the name. -/
def isNameChar (first : Bool) (c : Char) : Bool :=
  c = '_' || (if first then isAlphabetic c
    else c = '.' || c = '[' || c = ']' || isAlphanumeric c)

/-- Reads the name of a group to its closing bracket. -/
def groupName (text : List Char) : Reads (List Char × List Char) :=
  let name := text.takeWhile (· ≠ '>')
  match text.dropWhile (· ≠ '>') with
  | [] => .error .badGroupName
  | _ :: rest =>
    match name with
    | [] => .error .badGroupName
    | c :: more =>
      if isNameChar true c && more.all (isNameChar false) then .ok (name, rest)
      else .error .badGroupName

/-- Opens a group that is delimited by `opening`. -/
def State.enter (s : State) (opening : Opening) (rest : List Char) : State :=
  { s with
    rest
    level := ⟨[], []⟩
    outer := ⟨s.level, opening, s.ignoring⟩ :: s.outer }

/-- Opens the next group that captures. -/
def State.enterCapture (s : State) (rest : List Char) : State :=
  { s.enter (.capture (s.captures + 1)) rest with captures := s.captures + 1 }

/-- Opens a group that captures and has a name; `text` follows the bracket before the name. -/
def State.enterNamed (s : State) (text : List Char) : Reads State := do
  let (name, rest) ← groupName text
  if s.names.contains name then .error .repeatedGroupName
  else .ok { s.enterCapture rest with names := name :: s.names }

/-- Reads the start of a group, or a change of flags; `text` follows the parenthesis. -/
def openGroup (s : State) (text : List Char) : Reads State :=
  match skip s.ignoring text with
  | '?' :: '=' :: _ | '?' :: '!' :: _ => .error .lookAround
  | '?' :: '<' :: '=' :: _ | '?' :: '<' :: '!' :: _ => .error .lookAround
  | '?' :: 'P' :: '<' :: rest => s.enterNamed rest
  | '?' :: '<' :: rest => s.enterNamed rest
  | '?' :: rest => do
    let (changes, left) ← flags false false [] rest
    match left with
    | ')' :: left =>
      if changes.isEmpty then .error .emptyFlags
      else
        .ok { s.push (.flags changes) left with ignoring := ignoringAfter s.ignoring changes }
    | left =>
      .ok { s.enter (.plain changes) (left.drop 1) with
            ignoring := ignoringAfter s.ignoring changes }
  | rest => .ok (s.enterCapture rest)

/-- Closes the group at hand. -/
def closeGroup (s : State) (rest : List Char) : Reads State :=
  match s.outer with
  | [] => .error .unopenedGroup
  | o :: outer =>
    let part :=
      match o.opening with
      | .capture index => Ast.capture index s.level.close
      | .plain changes => Ast.group changes s.level.close
    .ok { s with
      rest
      ignoring := o.ignoring
      level := { o.level with parts := part :: o.level.parts }
      outer }

/-- Repeats the part before. -/
def repeatLast (s : State) (c : Count) (greedy : Bool) (rest : List Char) : Reads State :=
  match s.level.parts with
  | [] | .empty :: _ | .flags _ :: _ => .error .nothingToRepeat
  | part :: parts =>
    .ok { s with rest, level := { s.level with parts := .rep part c greedy :: parts } }

/-- Tells a lazy repetition by the question mark after it. -/
def lazyMark : List Char → Bool × List Char
  | '?' :: rest => (false, rest)
  | rest => (true, rest)

/-- Whether there is a part to repeat. -/
def canRepeat (s : State) : Bool :=
  match s.level.parts with
  | [] | .empty :: _ | .flags _ :: _ => false
  | _ => true

/-- Reads one part. -/
def step (s : State) : List Char → Reads State
  | [] => .ok { s with rest := [] }
  | '(' :: rest => openGroup s rest
  | ')' :: rest => closeGroup s rest
  | '|' :: rest =>
    .ok { s with
      rest
      level := ⟨Ast.ofSequence s.level.parts.reverse :: s.level.branches, []⟩ }
  | '[' :: rest => do
    let (part, left) ← classExpr s.ignoring rest
    .ok (s.push part left)
  | '?' :: rest =>
    let (greedy, left) := lazyMark rest
    repeatLast s ⟨0, some 1⟩ greedy left
  | '*' :: rest =>
    let (greedy, left) := lazyMark rest
    repeatLast s ⟨0, none⟩ greedy left
  | '+' :: rest =>
    let (greedy, left) := lazyMark rest
    repeatLast s ⟨1, none⟩ greedy left
  | '{' :: rest =>
    if canRepeat s then do
      let (c, left) ← count s.ignoring rest
      let (greedy, left) := lazyMark (skip s.ignoring left)
      repeatLast s c greedy left
    else .error .nothingToRepeat
  | '\\' :: rest => do
    let (a, left) ← escape s.ignoring rest
    .ok (s.push (.atom a) left)
  | '.' :: rest => .ok (s.push (.atom .dot) rest)
  | '^' :: rest => .ok (s.push (.atom (.assertion .lineStart)) rest)
  | '$' :: rest => .ok (s.push (.atom (.assertion .lineEnd)) rest)
  | c :: rest => .ok (s.push (.atom (.char c false)) rest)

/-- Reads part after part to the end of the text. -/
def run : Nat → State → Reads Ast
  | 0, _ => .error .unclosedGroup
  | fuel + 1, s =>
    match skip s.ignoring s.rest with
    | [] => if s.outer.isEmpty then .ok s.level.close else .error .unclosedGroup
    | text => do
      let s ← step s text
      run fuel s

end Reader

/-- The deepest nesting that a pattern may have. -/
def depthLimit : Nat := 250

/-- Reads a pattern. -/
def Ast.read (text : List Char) : Reads Ast := do
  let ast ← Reader.run (text.length + 1) ⟨text, false, 0, [], ⟨[], []⟩, []⟩
  if ast.depth ≤ depthLimit then .ok ast else .error .tooDeep

end ContainerLint.Pattern
