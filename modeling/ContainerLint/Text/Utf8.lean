/-!
# UTF-8

`decode` reads bytes from left to right and gives one answer for each character and for each
longest run of bytes that starts a character but does not finish it, or cannot start one.
`decodeLossy` puts the replacement character where the bytes are wrong, `decode?` refuses them.
-/

namespace ContainerLint.Utf8

/-- A character that has begun: the value of its bytes so far, the number of bytes to come after
the next one, and the range in which the next byte must lie. -/
structure Begun where
  value : Nat
  after : Nat
  lo : Nat
  hi : Nat

/-- What a byte can do at the start of a character. -/
inductive Lead
  | ascii
  | begin (b : Begun)
  | wrong

/-- What the byte `b` does at the start of a character. The second byte is restricted where the
form would be too long, a surrogate, or beyond the last code point. -/
def lead (b : Nat) : Lead :=
  if b < 0x80 then .ascii
  else if b < 0xC2 then .wrong
  else if b < 0xE0 then .begin ⟨b - 0xC0, 0, 0x80, 0xBF⟩
  else if b = 0xE0 then .begin ⟨0, 1, 0xA0, 0xBF⟩
  else if b = 0xED then .begin ⟨13, 1, 0x80, 0x9F⟩
  else if b < 0xF0 then .begin ⟨b - 0xE0, 1, 0x80, 0xBF⟩
  else if b = 0xF0 then .begin ⟨0, 2, 0x90, 0xBF⟩
  else if b < 0xF4 then .begin ⟨b - 0xF0, 2, 0x80, 0xBF⟩
  else if b = 0xF4 then .begin ⟨4, 2, 0x80, 0x8F⟩
  else .wrong

/-- Reads bytes, a character being begun or not. A byte that does not go on with the character
starts the next one. -/
def decodeFrom : Option Begun → List UInt8 → List (Option Char)
  | none, [] => []
  | some _, [] => [none]
  | none, b :: rest =>
    match lead b.toNat with
    | .ascii => some (Char.ofNat b.toNat) :: decodeFrom none rest
    | .begin c => decodeFrom (some c) rest
    | .wrong => none :: decodeFrom none rest
  | some c, b :: rest =>
    if c.lo ≤ b.toNat ∧ b.toNat ≤ c.hi then
      let value := c.value * 64 + (b.toNat - 0x80)
      match c.after with
      | 0 => some (Char.ofNat value) :: decodeFrom none rest
      | n + 1 => decodeFrom (some ⟨value, n, 0x80, 0xBF⟩) rest
    else
      match lead b.toNat with
      | .ascii => none :: some (Char.ofNat b.toNat) :: decodeFrom none rest
      | .begin c => none :: decodeFrom (some c) rest
      | .wrong => none :: none :: decodeFrom none rest

/-- The characters of some bytes; where the bytes are wrong there is none. -/
def decode (bytes : List UInt8) : List (Option Char) := decodeFrom none bytes

/-- The character that stands for wrong bytes. -/
def replacement : Char := '\uFFFD'

/-- The characters of some bytes, with the replacement character where they are wrong. -/
def decodeLossy (bytes : List UInt8) : List Char := (decode bytes).map (·.getD replacement)

/-- The characters of bytes that are right throughout. -/
def decode? (bytes : List UInt8) : Option (List Char) := (decode bytes).mapM id

/-- The bytes of a character. -/
def encodeChar (c : Char) : List UInt8 :=
  let n := c.toNat
  if n < 0x80 then [UInt8.ofNat n]
  else if n < 0x800 then [UInt8.ofNat (0xC0 + n / 64), UInt8.ofNat (0x80 + n % 64)]
  else if n < 0x10000 then
    [UInt8.ofNat (0xE0 + n / 4096), UInt8.ofNat (0x80 + n / 64 % 64), UInt8.ofNat (0x80 + n % 64)]
  else
    [UInt8.ofNat (0xF0 + n / 262144), UInt8.ofNat (0x80 + n / 4096 % 64),
      UInt8.ofNat (0x80 + n / 64 % 64), UInt8.ofNat (0x80 + n % 64)]

/-- The bytes of a text. -/
def encode (text : List Char) : List UInt8 := text.flatMap encodeChar

end ContainerLint.Utf8
