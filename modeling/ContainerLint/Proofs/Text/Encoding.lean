import ContainerLint.Text.Utf8
import Mathlib.Tactic.IntervalCases
import Mathlib.Tactic.SplitIfs

/-!
# Decoding what was encoded

The bytes of a text are right throughout and stand for this text (`decode_encode`), so reading
them strictly or with replacements both gives the text back.
-/

namespace ContainerLint.Utf8

variable {c : Begun} {b k n : Nat}

/-- The last byte of a character, which adds six bits to it. -/
theorem decodeFrom_last (value : Nat) (hk : k < 64) (rest : List UInt8) :
    decodeFrom (some ⟨value, 0, 0x80, 0xBF⟩) (UInt8.ofNat (0x80 + k) :: rest) =
      some (Char.ofNat (value * 64 + k)) :: decodeFrom none rest := by
  have hbyte : 0x80 + k < 256 := by omega
  have htoNat : (UInt8.ofNat (0x80 + k)).toNat = 0x80 + k := UInt8.toNat_ofNat_of_lt' hbyte
  have hrange : 0x80 ≤ 0x80 + k ∧ 0x80 + k ≤ 0xBF := by omega
  rw [decodeFrom, htoNat, if_pos hrange, Nat.add_sub_cancel_left]

/-- A byte with which a character goes on, and which adds six bits to it. -/
theorem decodeFrom_more (value after : Nat) {lo hi : Nat} (hk : k < 64) (hlo : lo ≤ 0x80 + k)
    (hhi : 0x80 + k ≤ hi) (rest : List UInt8) :
    decodeFrom (some ⟨value, after + 1, lo, hi⟩) (UInt8.ofNat (0x80 + k) :: rest) =
      decodeFrom (some ⟨value * 64 + k, after, 0x80, 0xBF⟩) rest := by
  have hbyte : 0x80 + k < 256 := by omega
  have htoNat : (UInt8.ofNat (0x80 + k)).toNat = 0x80 + k := UInt8.toNat_ofNat_of_lt' hbyte
  rw [decodeFrom, htoNat, if_pos ⟨hlo, hhi⟩, Nat.add_sub_cancel_left]

/-- A byte with which a character begins. -/
theorem decodeFrom_begin (hlead : lead b = .begin c) (hb : b < 256) (rest : List UInt8) :
    decodeFrom none (UInt8.ofNat b :: rest) = decodeFrom (some c) rest := by
  have htoNat : (UInt8.ofNat b).toNat = b := UInt8.toNat_ofNat_of_lt' hb
  rw [decodeFrom, htoNat, hlead]

/-- The first of two bytes. -/
theorem lead_two (hlo : 2 ≤ n) (hhi : n < 32) : lead (0xC0 + n) = .begin ⟨n, 0, 0x80, 0xBF⟩ := by
  unfold lead
  rw [if_neg (by omega), if_neg (by omega), if_pos (by omega)]
  simp

/-- The first of three bytes. After it the second byte is restricted where the character would
have a shorter form, or be a surrogate. -/
theorem lead_three (h : n < 16) :
    lead (0xE0 + n) =
      .begin ⟨n, 1, if n = 0 then 0xA0 else 0x80, if n = 13 then 0x9F else 0xBF⟩ := by
  interval_cases n <;> rfl

/-- The first of four bytes. After it the second byte is restricted where the character would have
a shorter form, or be beyond the last one. -/
theorem lead_four (h : n < 5) :
    lead (0xF0 + n) =
      .begin ⟨n, 2, if n = 0 then 0x90 else 0x80, if n = 4 then 0x8F else 0xBF⟩ := by
  interval_cases n <;> rfl

/-- The bytes of a character stand for it, whatever comes after them. -/
theorem decodeFrom_encodeChar (c : Char) (rest : List UInt8) :
    decodeFrom none (encodeChar c ++ rest) = some c :: decodeFrom none rest := by
  have hchar : Char.ofNat c.toNat = c := Char.ofNat_toNat c
  have hvalid : c.toNat < 0xD800 ∨ 0xDFFF < c.toNat ∧ c.toNat < 0x110000 := c.valid
  rw [encodeChar]
  generalize c.toNat = n at hchar hvalid
  show decodeFrom none ((if n < 0x80 then _ else if n < 0x800 then _ else
    if n < 0x10000 then _ else _) ++ rest) = _
  split_ifs with hone htwo hthree
  · have hbyte : n < 256 := by omega
    have htoNat : (UInt8.ofNat n).toNat = n := UInt8.toNat_ofNat_of_lt' hbyte
    have hlead : lead n = .ascii := if_pos hone
    rw [List.singleton_append, decodeFrom, htoNat, hlead, hchar]
  · have hvalue : n / 64 * 64 + n % 64 = n := by omega
    have hlead := lead_two (n := n / 64) (by omega) (by omega)
    simp only [List.cons_append, List.nil_append]
    rw [decodeFrom_begin hlead (by omega), decodeFrom_last _ (by omega), hvalue, hchar]
  · have hvalue : (n / 4096 * 64 + n / 64 % 64) * 64 + n % 64 = n := by omega
    have hlead := lead_three (n := n / 4096) (by omega)
    simp only [List.cons_append, List.nil_append]
    rw [decodeFrom_begin hlead (by omega),
      decodeFrom_more _ _ (by omega) (by split_ifs <;> omega) (by split_ifs <;> omega),
      decodeFrom_last _ (by omega), hvalue, hchar]
  · have hvalue : ((n / 262144 * 64 + n / 4096 % 64) * 64 + n / 64 % 64) * 64 + n % 64 = n := by
      omega
    have hlead := lead_four (n := n / 262144) (by omega)
    simp only [List.cons_append, List.nil_append]
    rw [decodeFrom_begin hlead (by omega),
      decodeFrom_more _ _ (by omega) (by split_ifs <;> omega) (by split_ifs <;> omega),
      decodeFrom_more _ _ (by omega) (by omega) (by omega), decodeFrom_last _ (by omega), hvalue,
      hchar]

/-- The bytes of a text stand for it. -/
theorem decode_encode (text : List Char) : decode (encode text) = text.map some := by
  rw [decode]
  induction text with
  | nil => rfl
  | cons c text ih =>
      show decodeFrom none (encodeChar c ++ encode text) = _
      rw [decodeFrom_encodeChar, ih]
      rfl

/-- Nothing has to be replaced. -/
theorem decodeLossy_encode (text : List Char) : decodeLossy (encode text) = text := by
  rw [decodeLossy, decode_encode, List.map_map]
  exact List.map_id' text

/-- The bytes are not refused. -/
theorem decode?_encode (text : List Char) : decode? (encode text) = some text := by
  rw [decode?, decode_encode]
  induction text with
  | nil => rfl
  | cons c text ih => simp [List.mapM_cons, ih]

end ContainerLint.Utf8
