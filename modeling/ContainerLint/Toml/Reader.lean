import ContainerLint.Toml.Scalar
import ContainerLint.Toml.Table

/-!
# Reading TOML

`Toml.parse?` reads a settings file in TOML into data. A date or a time becomes an object with one
member, so that it fits nowhere where a text or a number is wanted.
-/

namespace ContainerLint.Toml

/-- Whether `c` may stand in a key without quotes. -/
def isKeyChar (c : Char) : Bool := c.isAlphanum || c = '_' || c = '-'

/-- Reads one part of a key. -/
def keyPart (text : List Char) : Option (String × List Char) :=
  match text with
  | '"' :: rest => do
    let (name, rest) ← basicFrom (rest.length + 1) [] rest
    some (String.ofList name, rest)
  | '\'' :: rest => do
    let (name, rest) ← literalFrom [] rest
    some (String.ofList name, rest)
  | text =>
    let name := text.takeWhile isKeyChar
    if name.isEmpty then none else some (String.ofList name, text.dropWhile isKeyChar)

/-- The most parts that a key may have, and the deepest nesting of values. -/
def depthLimit : Nat := 80

/-- Reads a key: its parts before the last one, the latest first, and the last one. -/
def keyFrom : Nat → List String → List Char → Option ((List String × String) × List Char)
  | 0, _, _ => none
  | fuel + 1, before, text => do
    let (part, rest) ← keyPart (skipGaps text)
    match skipGaps rest with
    | '.' :: rest => keyFrom fuel (part :: before) rest
    | rest => some ((before, part), rest)

/-- Reads a key: its parts before the last one, and the last one. -/
def key (text : List Char) : Option ((List String × String) × List Char) := do
  let ((before, last), rest) ← keyFrom (depthLimit - 1) [] text
  some ((before.reverse, last), rest)

/-- Skips gaps, line ends and comments. -/
def skipLines : Nat → List Char → List Char
  | 0, text => text
  | fuel + 1, text =>
    let rest := skipGaps text
    match lineEnd? rest with
    | some rest => skipLines fuel rest
    | none =>
      match rest with
      | '#' :: _ =>
        match lineEnd? (skipComment rest) with
        | some rest => skipLines fuel rest
        | none => rest
      | rest => rest

/-- Skips gaps, line ends and comments. -/
def skipAll (text : List Char) : List Char := skipLines (text.length + 1) text

mutual

/-- Reads a value; `depth` tells how many values may still be nested. -/
def valueFrom (fuel depth : Nat) (text : List Char) : Option (Value × List Char) :=
  match fuel with
  | 0 => none
  | fuel + 1 =>
    match text with
    | '[' :: rest =>
      match depth with
      | 0 => none
      | depth + 1 =>
        match skipAll rest with
        | ']' :: rest => some (.arr [], rest)
        | rest => itemsFrom fuel depth [] rest
    | '\x7b' :: rest =>
      match depth with
      | 0 => none
      | depth + 1 =>
        match skipGaps rest with
        | '\x7d' :: rest => some (.obj [], rest)
        | rest => pairsFrom fuel depth [] rest
    | '"' :: _ | '\'' :: _ => (string text).map fun (s, rest) => (.str (String.ofList s), rest)
    | 't' :: 'r' :: 'u' :: 'e' :: rest => some (.bool true, rest)
    | 'f' :: 'a' :: 'l' :: 's' :: 'e' :: rest => some (.bool false, rest)
    | text => numberOrMoment text

/-- Reads the items of an array; `found` holds those before, the latest first. A comma may stand
after the last one. -/
def itemsFrom (fuel depth : Nat) (found : List Value) (text : List Char) :
    Option (Value × List Char) :=
  match fuel with
  | 0 => none
  | fuel + 1 => do
    let (v, rest) ← valueFrom fuel depth text
    match skipAll rest with
    | ']' :: rest => some (.arr (v :: found).reverse, rest)
    | ',' :: rest =>
      match skipAll rest with
      | ']' :: rest => some (.arr (v :: found).reverse, rest)
      | rest => itemsFrom fuel depth (v :: found) rest
    | _ => none

/-- Reads the members of a table on one line; `found` holds those before. -/
def pairsFrom (fuel depth : Nat) (found : Entries) (text : List Char) :
    Option (Value × List Char) :=
  match fuel with
  | 0 => none
  | fuel + 1 => do
    let ((before, last), rest) ← key text
    match skipGaps rest with
    | '=' :: rest =>
      let (v, rest) ← valueFrom fuel depth (skipGaps rest)
      let found ← found.assign before last v
      match skipGaps rest with
      | '\x7d' :: rest => some ((Entry.table .header found).toValue, rest)
      | ',' :: rest => pairsFrom fuel depth found rest
      | _ => none
    | _ => none

end

/-- Reads a value. -/
def value (text : List Char) : Option (Value × List Char) :=
  valueFrom (2 * text.length + 2) (depthLimit - 1) text

/-- Reads the header of a table after its opening bracket, and whether it is one of a list. -/
def header (text : List Char) : Option ((Bool × List String × String) × List Char) :=
  match text with
  | '[' :: rest => do
    let ((before, last), rest) ← key rest
    match skipGaps rest with
    | ']' :: ']' :: rest => some ((true, before, last), rest)
    | _ => none
  | rest => do
    let ((before, last), rest) ← key rest
    match skipGaps rest with
    | ']' :: rest => some ((false, before, last), rest)
    | _ => none

/-- Reads line after line; `current` is the header under which the lines stand. -/
def linesFrom : Nat → List String → Entries → List Char → Option Entries
  | 0, _, _, _ => none
  | fuel + 1, current, entries, text =>
    match skipGaps text with
    | [] => some entries
    | '#' :: rest => (closeLine? ('#' :: rest)).bind (linesFrom fuel current entries)
    | '\n' :: rest => linesFrom fuel current entries rest
    | '\r' :: '\n' :: rest => linesFrom fuel current entries rest
    | '[' :: rest => do
      let ((isList, before, last), rest) ← header rest
      let rest ← closeLine? rest
      let entries ← if isList then entries.headMore before last else entries.head before last
      linesFrom fuel (before ++ [last]) entries rest
    | start => do
      let ((before, last), rest) ← key start
      match skipGaps rest with
      | '=' :: rest =>
        let (v, rest) ← value (skipGaps rest)
        let rest ← closeLine? rest
        let entries ← entries.within (fun inner => inner.assign before last v) current
        linesFrom fuel current entries rest
      | _ => none

/-- Reads a file in TOML. A byte order mark at its start does not matter. -/
def parse? (text : String) : Option Value :=
  let chars :=
    match text.toList with
    | '\uFEFF' :: rest => rest
    | chars => chars
  (linesFrom (chars.length + 1) [] [] chars).map fun entries =>
    (Entry.table .header entries).toValue

end ContainerLint.Toml
