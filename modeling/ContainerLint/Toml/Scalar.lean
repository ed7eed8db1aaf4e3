import ContainerLint.Value

/-!
# Strings, numbers and dates in TOML

The parts of a TOML text that hold no other part. Each reader takes the text from its first
character on and gives what it read and the text after it, or nothing if the text breaks a rule.
-/

namespace ContainerLint.Toml

/-- Whether `c` is a space or a tab. -/
def isGap (c : Char) : Bool := c = ' ' || c = '\t'

/-- Skips spaces and tabs. -/
def skipGaps (text : List Char) : List Char := text.dropWhile isGap

/-- Whether `c` may stand in a comment or a string on one line. -/
def isTextChar (c : Char) : Bool := c = '\t' || (0x20 ≤ c.toNat && c.toNat ≠ 0x7F)

/-- Takes a line end, if there is one. -/
def lineEnd? : List Char → Option (List Char)
  | '\n' :: rest => some rest
  | '\r' :: '\n' :: rest => some rest
  | _ => none

/-- Skips a comment, if there is one, up to the end of its line. -/
def skipComment : List Char → List Char
  | '#' :: rest => rest.dropWhile isTextChar
  | text => text

/-- Takes what may stand at the end of a line: gaps, a comment, and the line end or the end of the
text. -/
def closeLine? (text : List Char) : Option (List Char) :=
  match skipComment (skipGaps text) with
  | [] => some []
  | rest => lineEnd? rest

/-- The value of a hexadecimal digit. -/
def hexValue? (c : Char) : Option Nat :=
  if '0' ≤ c ∧ c ≤ '9' then some (c.toNat - 48)
  else if 'a' ≤ c ∧ c ≤ 'f' then some (c.toNat - 87)
  else if 'A' ≤ c ∧ c ≤ 'F' then some (c.toNat - 55)
  else none

/-- Reads a character by `n` hexadecimal digits. -/
def hexChar (n : Nat) (text : List Char) : Option (Char × List Char) := do
  if text.length < n then none
  else
    let values ← (text.take n).mapM hexValue?
    let code := values.foldl (fun m d => m * 16 + d) 0
    if code < 0xD800 ∨ (0xDFFF < code ∧ code < 0x110000) then
      some (Char.ofNat code, text.drop n)
    else none

/-- Reads what follows a backslash. -/
def escape : List Char → Option (Char × List Char)
  | 'b' :: rest => some ('\x08', rest)
  | 'f' :: rest => some ('\x0c', rest)
  | 'n' :: rest => some ('\n', rest)
  | 'r' :: rest => some ('\r', rest)
  | 't' :: rest => some ('\t', rest)
  | '"' :: rest => some ('"', rest)
  | '\\' :: rest => some ('\\', rest)
  | 'u' :: rest => hexChar 4 rest
  | 'U' :: rest => hexChar 8 rest
  | _ => none

/-- Reads a string on one line after its opening quote. -/
def basicFrom : Nat → List Char → List Char → Option (List Char × List Char)
  | 0, _, _ => none
  | _ + 1, _, [] => none
  | fuel + 1, taken, c :: rest =>
    if c = '"' then some (taken.reverse, rest)
    else if c = '\\' then
      match escape rest with
      | some (d, rest) => basicFrom fuel (d :: taken) rest
      | none => none
    else if isTextChar c then basicFrom fuel (c :: taken) rest
    else none

/-- Reads a string on one line without escapes after its opening quote. -/
def literalFrom : List Char → List Char → Option (List Char × List Char)
  | _, [] => none
  | taken, c :: rest =>
    if c = '\'' then some (taken.reverse, rest)
    else if isTextChar c then literalFrom (c :: taken) rest
    else none

/-- Skips gaps and line ends. -/
def skipBreaks : Nat → List Char → List Char
  | 0, text => text
  | fuel + 1, text =>
    let rest := skipGaps text
    match lineEnd? rest with
    | some rest => skipBreaks fuel rest
    | none => rest

/-- Drops a line end at the start of a string over several lines. -/
def dropFirstBreak (text : List Char) : List Char := (lineEnd? text).getD text

/-- Reads a string over several lines after its opening quotes; `quote` is the quote it is written
with, and `escapes` tells whether it has escapes. A run of three to five quotes ends the string,
the quotes beyond three belonging to it. -/
def longFrom (quote : Char) (escapes : Bool) :
    Nat → List Char → List Char → Option (List Char × List Char)
  | 0, _, _ => none
  | _ + 1, _, [] => none
  | fuel + 1, taken, c :: rest =>
    if c = quote then
      let quotes := ((c :: rest).takeWhile (· = quote)).length
      if quotes < 3 then
        longFrom quote escapes fuel (List.replicate quotes quote ++ taken)
          ((c :: rest).drop quotes)
      else
        let kept := min (quotes - 3) 2
        some ((List.replicate kept quote ++ taken).reverse, (c :: rest).drop (kept + 3))
    else if c = '\\' ∧ escapes then
      match lineEnd? (skipGaps rest) with
      | some after => longFrom quote escapes fuel taken (skipBreaks (after.length + 1) after)
      | none =>
        match escape rest with
        | some (d, rest) => longFrom quote escapes fuel (d :: taken) rest
        | none => none
    else
      match lineEnd? (c :: rest) with
      | some rest => longFrom quote escapes fuel ('\n' :: taken) rest
      | none => if isTextChar c then longFrom quote escapes fuel (c :: taken) rest else none

/-- Reads a string. -/
def string : List Char → Option (List Char × List Char)
  | '"' :: '"' :: '"' :: rest =>
    longFrom '"' true (rest.length + 1) [] (dropFirstBreak rest)
  | '"' :: rest => basicFrom (rest.length + 1) [] rest
  | '\'' :: '\'' :: '\'' :: rest =>
    longFrom '\'' false (rest.length + 1) [] (dropFirstBreak rest)
  | '\'' :: rest => literalFrom [] rest
  | _ => none

/-! ## Numbers -/

/-- Reads digits, between which single low lines may stand. -/
def digitsFrom (isDigit : Char → Bool) : List Char → List Char × List Char
  | [] => ([], [])
  | c :: rest =>
    if isDigit c then
      match rest with
      | '_' :: d :: more =>
        if isDigit d then
          let (taken, left) := digitsFrom isDigit (d :: more)
          (c :: taken, left)
        else ([c], rest)
      | rest =>
        let (taken, left) := digitsFrom isDigit rest
        (c :: taken, left)
    else ([], c :: rest)

/-- The number that digits of a base stand for. -/
def natOf (base : Nat) (digits : List Char) : Nat :=
  digits.foldl (fun n c => n * base + (hexValue? c).getD 0) 0

/-- A whole number, if it fits 64 bits with a sign. -/
def whole? (n : Int) : Option Value :=
  if -9223372036854775808 ≤ n ∧ n ≤ 9223372036854775807 then some (.int n) else none

/-- Reads a whole number in another base after its mark. -/
def basedNumber (base : Nat) (isDigit : Char → Bool) (text : List Char) :
    Option (Value × List Char) :=
  match digitsFrom isDigit text with
  | ([], _) => none
  | (digits, rest) => (whole? (natOf base digits)).map fun v => (v, rest)

/-- The floating-point number `digits * 10 ^ exponent`, rounded. -/
def floatOf (negative : Bool) (digits : Nat) (exponent : Int) : Value :=
  let e := if exponent < -5000 then -5000 else if 5000 < exponent then 5000 else exponent
  let size := if e < 0 then Float.ofScientific digits true (-e).toNat
    else Float.ofScientific digits false e.toNat
  .float (if negative then (-size).toBits else size.toBits)

/-- Reads the part after the point of a number, if there is one. -/
def fraction? : List Char → Option ((Option (List Char)) × List Char)
  | '.' :: rest =>
    match digitsFrom Char.isDigit rest with
    | ([], _) => none
    | (digits, rest) => some (some digits, rest)
  | rest => some (none, rest)

/-- Reads the exponent of a number, if there is one. -/
def exponent? : List Char → Option ((Option Int) × List Char)
  | c :: rest =>
    if c = 'e' ∨ c = 'E' then
      let (negative, rest) :=
        match rest with
        | '+' :: r => (false, r)
        | '-' :: r => (true, r)
        | r => (false, r)
      match digitsFrom Char.isDigit rest with
      | ([], _) => none
      | (digits, rest) =>
        let n : Int := natOf 10 digits
        some (some (if negative then -n else n), rest)
    else some (none, c :: rest)
  | [] => some (none, [])

/-- Reads a decimal number after its sign. -/
def decimalNumber (negative : Bool) (text : List Char) : Option (Value × List Char) :=
  let (digits, rest) :=
    match text with
    | '0' :: rest => (['0'], rest)
    | text => digitsFrom Char.isDigit text
  if digits.isEmpty then none
  else do
    let (fraction, rest) ← fraction? rest
    let (exponent, rest) ← exponent? rest
    let n := natOf 10 digits
    match fraction, exponent with
    | none, none =>
      let v ← whole? (if negative then -(n : Int) else n)
      some (v, rest)
    | fraction, exponent =>
      let after := fraction.getD []
      let m := natOf 10 (digits ++ after)
      some (floatOf negative m (exponent.getD 0 - after.length), rest)

/-- The bits of infinity. -/
def infinityBits (negative : Bool) : UInt64 :=
  if negative then 0xFFF0000000000000 else 0x7FF0000000000000

/-- The bits of the result that is no number. -/
def nanBits (negative : Bool) : UInt64 :=
  if negative then 0xFFF8000000000000 else 0x7FF8000000000000

/-- Reads a number after its sign. -/
def unsignedNumber (negative : Bool) : List Char → Option (Value × List Char)
  | 'i' :: 'n' :: 'f' :: rest => some (.float (infinityBits negative), rest)
  | 'n' :: 'a' :: 'n' :: rest => some (.float (nanBits negative), rest)
  | text => decimalNumber negative text

/-- Reads a number. -/
def number : List Char → Option (Value × List Char)
  | '0' :: 'x' :: rest => basedNumber 16 (fun c => (hexValue? c).isSome) rest
  | '0' :: 'o' :: rest => basedNumber 8 (fun c => '0' ≤ c ∧ c ≤ '7') rest
  | '0' :: 'b' :: rest => basedNumber 2 (fun c => c = '0' || c = '1') rest
  | '+' :: rest => unsignedNumber false rest
  | '-' :: rest => unsignedNumber true rest
  | text => unsignedNumber false text

/-! ## Dates and times -/

/-- Reads exactly `n` figures as a number from `lo` to `hi`. -/
def figures (n lo hi : Nat) (text : List Char) : Option (Nat × List Char) :=
  let taken := text.take n
  let value := natOf 10 taken
  if taken.length = n ∧ taken.all Char.isDigit ∧ lo ≤ value ∧ value ≤ hi then
    some (value, text.drop n)
  else none

/-- Takes one given character. -/
def mark (c : Char) : List Char → Option (List Char)
  | d :: rest => if c = d then some rest else none
  | [] => none

/-- The number of days of a month. -/
def daysIn (year month : Nat) : Nat :=
  if month = 2 then
    if year % 4 = 0 ∧ (year % 100 ≠ 0 ∨ year % 400 = 0) then 29 else 28
  else if month = 4 ∨ month = 6 ∨ month = 9 ∨ month = 11 then 30
  else 31

/-- Takes a date. -/
def date? (text : List Char) : Option (List Char) := do
  let (year, rest) ← figures 4 0 9999 text
  let rest ← mark '-' rest
  let (month, rest) ← figures 2 1 12 rest
  let rest ← mark '-' rest
  let (_, rest) ← figures 2 1 (daysIn year month) rest
  some rest

/-- Takes a time of day. -/
def time? (text : List Char) : Option (List Char) := do
  let (_, rest) ← figures 2 0 23 text
  let rest ← mark ':' rest
  let (_, rest) ← figures 2 0 59 rest
  let rest ← mark ':' rest
  let (_, rest) ← figures 2 0 60 rest
  match rest with
  | '.' :: more =>
    if (more.takeWhile Char.isDigit).isEmpty then none
    else some (more.dropWhile Char.isDigit)
  | rest => some rest

/-- Takes the distance from universal time, if there is one. -/
def offset? : List Char → Option (List Char)
  | c :: rest =>
    if c = 'Z' ∨ c = 'z' then some rest
    else if c = '+' ∨ c = '-' then do
      let (_, rest) ← figures 2 0 23 rest
      let rest ← mark ':' rest
      let (_, rest) ← figures 2 0 59 rest
      some rest
    else some (c :: rest)
  | [] => some []

/-- Takes a date, a time of day, or both. -/
def moment? (text : List Char) : Option (List Char) :=
  match date? text with
  | some (c :: rest) =>
    if c = 'T' ∨ c = 't' ∨ (c = ' ' ∧ (figures 2 0 23 rest).isSome) then
      (time? rest).bind offset?
    else some (c :: rest)
  | some [] => some []
  | none => time? text

/-- The key under which a date or a time stands as data. -/
def momentKey : String := "datetime"

/-- Whether a date or a time starts here, rather than a number. -/
def startsMoment (text : List Char) : Bool :=
  match text.dropWhile Char.isDigit with
  | ':' :: _ => (text.takeWhile Char.isDigit).length = 2
  | '-' :: _ => (text.takeWhile Char.isDigit).length = 4
  | _ => false

/-- Reads a number, a date or a time. -/
def numberOrMoment (text : List Char) : Option (Value × List Char) :=
  if startsMoment text then
    (moment? text).map fun rest =>
      (.obj [(momentKey, .str (String.ofList (text.take (text.length - rest.length))))], rest)
  else number text

end ContainerLint.Toml
