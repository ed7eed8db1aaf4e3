import ContainerLint.Text.Utf8
import ContainerLint.Value.Decode

/-!
# Names of documents

Documents are named by URIs. `Uri.normal` brings a URI into its normal form, so that two spellings
of a name are one name: the scheme in small letters, path segments `.` and `..` carried out, and
characters that may not stand in a URI percent-encoded.
-/

namespace ContainerLint.Uri

/-- Why a text is no URI. -/
inductive Fault
  | relative | emptyHost
deriving DecidableEq, Repr

/-- What is said about a text that is no URI. -/
def Fault.message : Fault → String
  | .relative => "relative URL without a base"
  | .emptyHost => "empty host"

/-- A hexadecimal digit in capital letters. -/
def hexDigit (n : Nat) : Char := if n < 10 then Char.ofNat (48 + n) else Char.ofNat (55 + n)

/-- A character as percent-encoded bytes. -/
def percent (c : Char) : List Char :=
  (Utf8.encodeChar c).flatMap fun b => ['%', hexDigit (b.toNat / 16), hexDigit (b.toNat % 16)]

/-- Encodes the characters that are no printable ASCII or belong to `special`. -/
def encode (special : List Char) (text : List Char) : List Char :=
  text.flatMap fun c =>
    if c.toNat < 0x20 ∨ 0x7E < c.toNat ∨ special.contains c then percent c else [c]

/-- The characters that are encoded in a fragment. -/
def fragmentSpecial : List Char := [' ', '"', '<', '>', '`']

/-- The characters that are encoded in a path. -/
def pathSpecial : List Char := [' ', '"', '<', '>', '`', '#', '?', '\x7b', '\x7d']

/-- The characters that are encoded in a query; a single quote is one of them in the schemes that
are treated like those of the web. -/
def querySpecial (web : Bool) : List Char :=
  [' ', '"', '<', '>', '#'] ++ if web then ['\''] else []

/-- Drops controls and spaces at the start of a text. -/
def dropControls (text : List Char) : List Char := text.dropWhile fun c => c.toNat ≤ 0x20

/-- A text without controls and spaces around it, and without tabs and line ends. -/
def cleaned (text : List Char) : List Char :=
  (dropControls (dropControls text).reverse).reverse.filter fun c =>
    c ≠ '\t' && c ≠ '\n' && c ≠ '\r'

/-- Cuts a text at the first character that satisfies `p`; that character starts the rest. -/
def cutAt (p : Char → Bool) (text : List Char) : List Char × List Char :=
  (text.takeWhile fun c => !p c, text.dropWhile fun c => !p c)

/-- The scheme of a URI in small letters, and the text after its colon. -/
def scheme? (text : List Char) : Option (List Char × List Char) :=
  match cutAt (· = ':') text with
  | (c :: name, ':' :: rest) =>
    if c.isAlpha && name.all fun d => d.isAlphanum || d = '+' || d = '-' || d = '.' then
      some ((c :: name).map Char.toLower, rest)
    else none
  | _ => none

/-- Whether a segment stands for the directory itself. -/
def isDot (segment : List Char) : Bool :=
  let s := String.ofList (segment.map Char.toLower)
  s = "." || s = "%2e"

/-- Whether a segment stands for the directory above. -/
def isDotDot (segment : List Char) : Bool :=
  let s := String.ofList (segment.map Char.toLower)
  s = ".." || s = ".%2e" || s = "%2e." || s = "%2e%2e"

/-- Splits a path at its slashes. -/
def segments (isSlash : Char → Bool) : List Char → List (List Char)
  | [] => [[]]
  | c :: rest =>
    if isSlash c then [] :: segments isSlash rest
    else
      match segments isSlash rest with
      | s :: more => (c :: s) :: more
      | [] => [[c]]

/-- Carries out the segments of a path; `done` holds those before, the latest first. -/
def resolve (done : List (List Char)) : List (List Char) → List (List Char)
  | [] => done.reverse
  | s :: rest =>
    if isDotDot s then
      let up := done.drop 1
      if rest.isEmpty then ([] :: up).reverse else resolve up rest
    else if isDot s then
      if rest.isEmpty then ([] :: done).reverse else resolve done rest
    else resolve (s :: done) rest

/-- Whether a segment names a drive. -/
def isDrive : List Char → Bool
  | [c, d] => c.isAlpha && (d = ':' || d = '|')
  | _ => false

/-- Writes the name of a drive with a colon. -/
def fixDrive : List (List Char) → List (List Char)
  | s :: rest => (if isDrive s then s.take 1 ++ [':'] else s) :: rest
  | [] => []

/-- A path in normal form, from the text after its first slash. -/
def path (isSlash : Char → Bool) (isFile : Bool) (text : List Char) : List Char :=
  let parts := resolve [] (segments isSlash text)
  let parts := if isFile then fixDrive parts else parts
  parts.flatMap fun s => '/' :: encode pathSpecial s

/-- The query and the fragment of a URI in normal form. -/
def tail (web : Bool) (text : List Char) : List Char :=
  match text with
  | '?' :: rest =>
    let (query, rest) := cutAt (· = '#') rest
    '?' :: encode (querySpecial web) query ++
      match rest with
      | '#' :: fragment => '#' :: encode fragmentSpecial fragment
      | _ => []
  | '#' :: fragment => '#' :: encode fragmentSpecial fragment
  | _ => []

/-- Whether a path ends at `c`. -/
def endsPath (c : Char) : Bool := c = '?' || c = '#'

/-- The schemes whose URIs must name a host. -/
def hostSchemes : List String := ["http", "https", "ws", "wss", "ftp"]

/-- The normal form of what follows `file:`. -/
def fileRest (rest : List Char) : List Char :=
  let isSlash (c : Char) : Bool := c = '/' || c = '\\'
  let (before, after) := cutAt endsPath rest
  let (host, text) :=
    match before with
    | a :: b :: more =>
      if isSlash a && isSlash b then
        let (host, text) := cutAt isSlash more
        if isDrive host then ([], more)
        else
          (if String.ofList (host.map Char.toLower) = "localhost" then []
            else host.map Char.toLower, text.drop 1)
      else if isSlash a then ([], b :: more)
      else ([], a :: b :: more)
    | [a] => if isSlash a then ([], []) else ([], [a])
    | [] => ([], [])
  '/' :: '/' :: host ++ path isSlash true text ++ tail true after

/-- The normal form of a URI. -/
def normal (uri : String) : Except Fault String :=
  match scheme? (cleaned uri.toList) with
  | none => .error .relative
  | some (scheme, rest) =>
    let start := scheme ++ [':']
    if String.ofList scheme = "file" then .ok (String.ofList (start ++ fileRest rest))
    else if hostSchemes.contains (String.ofList scheme) then
      let isSlash (c : Char) : Bool := c = '/' || c = '\\'
      let (before, after) := cutAt endsPath (rest.dropWhile isSlash)
      let (host, text) := cutAt isSlash before
      if host.isEmpty then .error .emptyHost
      else
        .ok (String.ofList (start ++ ['/', '/'] ++ host.map Char.toLower ++
          path isSlash false (text.drop 1) ++ tail true after))
    else
      let (before, after) := cutAt endsPath rest
      match before with
      | '/' :: '/' :: more =>
        let (host, text) := cutAt (· = '/') more
        let shown := if text.isEmpty then [] else path (· = '/') false (text.drop 1)
        .ok (String.ofList (start ++ ['/', '/'] ++ encode [] host ++ shown ++ tail false after))
      | '/' :: more =>
        .ok (String.ofList (start ++ path (· = '/') false more ++ tail false after))
      | plain =>
        .ok (String.ofList (start ++ encode [] plain ++ tail false after))

/-- Reads a URI. -/
def decode : Value → Decoded String
  | .str s =>
    match normal s with
    | .ok uri => .ok uri
    | .error fault => .error (.invalidValue (Value.str s).described fault.message)
  | v => Decode.wrongType v "a string representing an URL"

end ContainerLint.Uri
