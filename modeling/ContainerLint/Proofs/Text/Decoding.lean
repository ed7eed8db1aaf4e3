import ContainerLint.Proofs.Text.Lines
import ContainerLint.Text.Utf8
import Mathlib.Tactic.SplitIfs

/-!
# Decoding line by line

A line feed is one byte and no part of another character, not even of a wrong one. So bytes can be
decoded line by line (`decodeLossy_append`), and there is a line feed in the text only where there
is one among the bytes (`feed_not_mem_decodeLossy`). Both follow from what one byte can do
(`take`).
-/

namespace ContainerLint.Utf8

/-- What a byte gives at the start of a character, and what it begins. -/
def start (b : UInt8) : List (Option Char) × Option Begun :=
  match lead b.toNat with
  | .ascii => ([some (Char.ofNat b.toNat)], none)
  | .begin c => ([], some c)
  | .wrong => ([none], none)

/-- What a byte gives, a character being begun or not, and what is begun after it. -/
def take : Option Begun → UInt8 → List (Option Char) × Option Begun
  | none, b => start b
  | some c, b =>
    if c.lo ≤ b.toNat ∧ b.toNat ≤ c.hi then
      let value := c.value * 64 + (b.toNat - 0x80)
      match c.after with
      | 0 => ([some (Char.ofNat value)], none)
      | n + 1 => ([], some ⟨value, n, 0x80, 0xBF⟩)
    else (none :: (start b).1, (start b).2)

/-- Bytes are decoded one by one. -/
theorem decodeFrom_cons (begun : Option Begun) (b : UInt8) (rest : List UInt8) :
    decodeFrom begun (b :: rest) = (take begun b).1 ++ decodeFrom (take begun b).2 rest := by
  cases begun with
  | none =>
      rw [decodeFrom, take, start]
      cases lead b.toNat <;> rfl
  | some c =>
      rw [decodeFrom, take, start]
      split
      · cases c.after <;> rfl
      · cases lead b.toNat <;> rfl

/-- A character that has begun: a line feed does not go on with it, and it does not become one. -/
structure Begun.Sound (c : Begun) : Prop where
  lo : 0x80 ≤ c.lo
  value : 1 ≤ c.value ∨ (0x80 < c.lo ∧ c.after ≠ 0)

/-- What has begun, if anything, does not become a line feed. -/
def Ready (begun : Option Begun) : Prop := ∀ c, begun = some c → c.Sound

theorem ready_none : Ready none := fun _ h => by cases h

theorem lead_sound {b : Nat} {c : Begun} (h : lead b = .begin c) : c.Sound := by
  unfold lead at h
  split_ifs at h
  all_goals
    obtain rfl := (Lead.begin.inj h).symm
    refine ⟨Nat.le_of_ble_eq_true rfl, ?_⟩
    -- Where nothing of the character is known yet, the next byte is restricted further.
    first
    | exact .inr (by decide)
    | exact .inl (by decide)
    | exact .inl (by show 1 ≤ b - _; omega)

/-- What begins with a byte does not become a line feed. -/
theorem ready_start (b : UInt8) : Ready (start b).2 := by
  unfold start
  cases hb : lead b.toNat with
  | ascii | wrong => exact ready_none
  | begin c =>
      rintro _ ⟨⟩
      exact lead_sound hb

/-- Whatever byte comes, what has begun after it does not become a line feed. -/
theorem ready_take {begun : Option Begun} (h : Ready begun) (b : UInt8) :
    Ready (take begun b).2 := by
  cases begun with
  | none => exact ready_start b
  | some c =>
      obtain ⟨hbytes, hvalue⟩ := h c rfl
      rw [take]
      by_cases hnext : c.lo ≤ b.toNat ∧ b.toNat ≤ c.hi
      · rw [if_pos hnext]
        cases hafter : c.after with
        | zero => exact ready_none
        | succ n =>
            intro next hnext
            obtain rfl := Option.some.inj hnext
            refine ⟨Nat.le_refl _, .inl ?_⟩
            show 1 ≤ c.value * 64 + (b.toNat - 0x80)
            omega
      · rw [if_neg hnext]
        exact ready_start b

/-- A line feed ends whatever has begun and stands for itself. -/
theorem take_feed {begun : Option Begun} (h : Ready begun) :
    ∃ wrong, take begun 10 = (wrong ++ [some '\n'], none) := by
  cases begun with
  | none => exact ⟨[], rfl⟩
  | some c =>
      have hlo : ¬ (c.lo ≤ (10 : UInt8).toNat ∧ (10 : UInt8).toNat ≤ c.hi) := by
        have hbytes := (h c rfl).lo
        have hten : (10 : UInt8).toNat = 10 := rfl
        omega
      refine ⟨[none], ?_⟩
      rw [take, if_neg hlo]
      rfl

/-- Only the number of the line feed stands for it. -/
theorem ofNat_ne_feed {n : Nat} (h : n ≠ 10) : Char.ofNat n ≠ '\n' := by
  intro hfeed
  by_cases hn : n.isValidChar
  · rw [Char.ofNat, dif_pos hn] at hfeed
    exact h (congrArg Char.toNat hfeed)
  · rw [Char.ofNat, dif_neg hn] at hfeed
    exact absurd hfeed (by decide)

/-- Bytes other than a line feed do not give one. -/
theorem feed_not_mem_take {begun : Option Begun} (h : Ready begun) {b : UInt8} (hb : b ≠ 10) :
    some '\n' ∉ (take begun b).1 := by
  have hstart : some '\n' ∉ (start b).1 := by
    unfold start
    cases lead b.toNat with
    | ascii =>
        have hne : b.toNat ≠ 10 := fun heq => hb (UInt8.toNat_inj.mp heq)
        simpa using (ofNat_ne_feed hne).symm
    | begin | wrong => simp
  cases begun with
  | none => exact hstart
  | some c =>
      obtain ⟨hbytes, hvalue⟩ := h c rfl
      rw [take]
      by_cases hnext : c.lo ≤ b.toNat ∧ b.toNat ≤ c.hi
      · rw [if_pos hnext]
        cases hafter : c.after with
        | zero =>
            have hne : c.value * 64 + (b.toNat - 0x80) ≠ 10 := by omega
            simpa using (ofNat_ne_feed hne).symm
        | succ n => simp
      · rw [if_neg hnext]
        simpa using hstart

/-! ## Bytes after bytes -/

/-- Where a line feed comes, what is before it and what is after it are decoded apart. -/
theorem decodeFrom_feed (bytes : List UInt8) {begun : Option Begun} (h : Ready begun) :
    ∃ before, ∀ more,
      decodeFrom begun (bytes ++ 10 :: more) = before ++ some '\n' :: decodeFrom none more := by
  induction bytes generalizing begun with
  | nil =>
      obtain ⟨wrong, htake⟩ := take_feed h
      refine ⟨wrong, fun more => ?_⟩
      rw [List.nil_append, decodeFrom_cons, htake, List.append_assoc]
      rfl
  | cons b bytes ih =>
      obtain ⟨before, hbefore⟩ := ih (ready_take h b)
      refine ⟨(take begun b).1 ++ before, fun more => ?_⟩
      rw [List.cons_append, decodeFrom_cons, hbefore, List.append_assoc]

theorem feed_not_mem_decodeFrom (bytes : List UInt8) {begun : Option Begun} (h : Ready begun)
    (hbytes : 10 ∉ bytes) : some '\n' ∉ decodeFrom begun bytes := by
  induction bytes generalizing begun with
  | nil => cases begun <;> simp [decodeFrom]
  | cons b bytes ih =>
      rw [List.mem_cons, not_or] at hbytes
      rw [decodeFrom_cons, List.mem_append, not_or]
      exact ⟨feed_not_mem_take h (Ne.symm hbytes.1), ih (ready_take h b) hbytes.2⟩

/-- The bytes are none or end with a line feed. -/
def Complete (bytes : List UInt8) : Prop := bytes = [] ∨ ∃ before, bytes = before ++ [10]

variable {bytes : List UInt8}

/-- What is put after complete lines is decoded by itself. -/
theorem decodeLossy_append (h : Complete bytes) (more : List UInt8) :
    decodeLossy (bytes ++ more) = decodeLossy bytes ++ decodeLossy more := by
  rcases h with rfl | ⟨before, rfl⟩
  · rfl
  · obtain ⟨chars, hchars⟩ := decodeFrom_feed before ready_none
    have hnone : decodeFrom none (before ++ [10]) = chars ++ [some '\n'] := hchars []
    rw [decodeLossy, decodeLossy, decodeLossy, decode, decode, decode, List.append_assoc, hnone]
    show (decodeFrom none (before ++ 10 :: more)).map _ = _
    rw [hchars more, ← List.map_append, List.append_assoc]
    rfl

/-- A line feed at the end is decoded as the line feed at the end of the text. -/
theorem decodeLossy_concat_feed (before : List UInt8) :
    ∃ body, decodeLossy (before ++ [10]) = body ++ ['\n'] := by
  obtain ⟨chars, hchars⟩ := decodeFrom_feed before ready_none
  refine ⟨chars.map (·.getD replacement), ?_⟩
  have hnone : decodeFrom none (before ++ [10]) = chars ++ [some '\n'] := hchars []
  rw [decodeLossy, decode, hnone, List.map_append]
  rfl

/-- The text of complete lines is complete. -/
theorem closed_decodeLossy (h : Complete bytes) : Text.Closed (decodeLossy bytes) := by
  rcases h with rfl | ⟨before, rfl⟩
  · exact .inl rfl
  · exact .inr (decodeLossy_concat_feed before)

/-- Without a line feed among the bytes there is none in the text. -/
theorem feed_not_mem_decodeLossy (h : 10 ∉ bytes) : '\n' ∉ decodeLossy bytes := by
  intro hmem
  obtain ⟨char, hchar, hfeed⟩ := List.mem_map.mp hmem
  cases char with
  | none => cases hfeed
  | some c =>
      cases hfeed
      exact feed_not_mem_decodeFrom bytes ready_none h hchar

end ContainerLint.Utf8
