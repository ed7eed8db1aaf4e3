import ContainerLint.Proofs.Text.Lines
import ContainerLint.Text.Digit
import ContainerLint.Text.Word
import ContainerLint.Text.Word32

/-!
# Printed numbers and words

A number that is printed with decimal figures is read back (`word32?_toDigits`). Patterns ask for
decimal digits and for word characters of any script; those of ASCII are among them.
-/

namespace ContainerLint.Text

/-- The decimal digits of all scripts. -/
def decimals : CharSet := ⟨digitRanges⟩

/-- The word characters of all scripts. -/
def wordChars : CharSet := ⟨wordRanges⟩

theorem decimals_contains_of_isDigit {c : Char} (h : c.isDigit = true) :
    decimals.contains c = true := by
  have hranges : digitRanges = (48, 57) :: digitRanges.tail := rfl
  obtain ⟨hleast, hmost⟩ : 48 ≤ c.toNat ∧ c.toNat ≤ 57 := by
    simpa [Char.isDigit, UInt32.le_iff_toNat_le] using h
  rw [CharSet.contains, decimals, hranges, CharSet.inRanges, if_neg (Nat.not_lt.mpr hleast),
    if_pos hmost]

theorem decimals_colon : decimals.contains ':' = false := by decide +kernel

theorem isWord_of_isAsciiWord {c : Char} (h : isAsciiWord c = true) :
    isWord c = true := by
  have hranges : wordRanges =
      (48, 57) :: (65, 90) :: (95, 95) :: (97, 122) :: wordRanges.drop 4 := rfl
  have hunderscore : c = '_' ↔ c.toNat = 95 := Char.toNat_inj.symm
  have hcode : 65 ≤ c.toNat ∧ c.toNat ≤ 90 ∨ 97 ≤ c.toNat ∧ c.toNat ≤ 122 ∨
      48 ≤ c.toNat ∧ c.toNat ≤ 57 ∨ c.toNat = 95 := by
    change (decide (65 ≤ c.val ∧ c.val ≤ 90) || (97 ≤ c.val && c.val ≤ 122) ||
      (48 ≤ c.val && c.val ≤ 57) || c = '_') = true at h
    simpa [hunderscore, UInt32.le_iff_toNat_le, or_assoc] using h
  rw [isWord, hranges]
  simp only [CharSet.inRanges]
  grind

theorem wordChars_contains_of_isAsciiWord {c : Char} (h : isAsciiWord c = true) :
    wordChars.contains c = true :=
  isWord_of_isAsciiWord h

/-- A word character ends no line. -/
theorem isBreak_of_isWord {c : Char} (h : isWord c = true) : isBreak c = false := by
  rw [← Bool.not_eq_true]
  intro hbreak
  simp only [isBreak, Bool.or_eq_true, decide_eq_true_eq] at hbreak
  rcases hbreak with rfl | rfl <;> revert h <;> decide +kernel

/-- A figure is a word character of ASCII. -/
theorem isAsciiWord_of_isDigit {c : Char} (h : c.isDigit = true) : isAsciiWord c = true := by
  simp [isAsciiWord, Char.isAlphanum, h]

theorem figuresValue_eq (figures : List Char) :
    figuresValue figures = Nat.ofDigitChars 10 figures 0 := by
  rw [figuresValue, Nat.ofDigitChars_eq_foldl]
  simp only [Nat.mul_comm]
  rfl

theorem figuresValue_toDigits (n : Nat) : figuresValue (Nat.toDigits 10 n) = n := by
  rw [figuresValue_eq, Nat.ofDigitChars_ten_toDigits]

theorem isDigit_of_mem_toDigits {n : Nat} {c : Char} (h : c ∈ Nat.toDigits 10 n) :
    c.isDigit = true :=
  Nat.isDigit_of_mem_toDigits (by decide) (by decide) h

/-- A printed number is in one line. -/
theorem isBreak_of_mem_toDigits {n : Nat} {c : Char} (h : c ∈ Nat.toDigits 10 n) :
    isBreak c = false :=
  isBreak_of_isWord (isWord_of_isAsciiWord (isAsciiWord_of_isDigit (isDigit_of_mem_toDigits h)))

theorem decimals_contains_toDigits (n : Nat) :
    ∀ c ∈ Nat.toDigits 10 n, decimals.contains c = true :=
  fun _ hc => decimals_contains_of_isDigit (isDigit_of_mem_toDigits hc)

/-! ## What is read as a number -/

/-- The text is a number: ASCII figures, at least one of them, with an optional plus sign in
front. -/
def Denotes (text : List Char) (n : Nat) : Prop :=
  ∃ figures, (text = figures ∨ text = '+' :: figures) ∧ figures ≠ [] ∧
    (∀ c ∈ figures, c.isDigit = true) ∧ Nat.ofDigitChars 10 figures 0 = n

theorem figures32?_eq_some_iff {figures : List Char} {n : UInt32} :
    figures32? figures = some n ↔ figures ≠ [] ∧ (∀ c ∈ figures, c.isDigit = true) ∧
      Nat.ofDigitChars 10 figures 0 = n.toNat := by
  rw [← figuresValue_eq, figures32?]
  split
  · rename_i hnone
    simp only [Bool.or_eq_true, List.isEmpty_iff, Bool.not_eq_true', List.all_eq_false] at hnone
    simp only [reduceCtorEq, false_iff]
    rintro ⟨hne, hall, -⟩
    rcases hnone with hnil | ⟨c, hc, hnot⟩
    · exact hne hnil
    · exact hnot (hall c hc)
  · rename_i hfigures
    simp only [Bool.or_eq_true, List.isEmpty_iff, Bool.not_eq_true', not_or,
      Bool.not_eq_false, List.all_eq_true] at hfigures
    obtain ⟨hne, hall⟩ := hfigures
    have hless : n.toNat < 4294967296 := n.toNat_lt
    split
    · rename_i hsmall
      rw [Option.some.injEq]
      constructor
      · rintro rfl
        exact ⟨hne, hall, (UInt32.toNat_ofNat_of_lt' hsmall).symm⟩
      · rintro ⟨-, -, hvalue⟩
        rw [hvalue, UInt32.ofNat_toNat]
    · simp only [reduceCtorEq, false_iff]
      rintro ⟨-, -, hvalue⟩
      omega

/-- A number of 32 bits is read from the texts that are this number, and from no other. -/
theorem word32?_eq_some_iff {text : List Char} {n : UInt32} :
    word32? text = some n ↔ Denotes text n.toNat := by
  unfold word32?
  split
  · rename_i rest
    rw [figures32?_eq_some_iff]
    constructor
    · exact fun h => ⟨rest, .inr rfl, h⟩
    · rintro ⟨figures, heq | heq, hne, hall, hvalue⟩
      · -- A plus sign is no figure.
        cases hall '+' (heq ▸ List.mem_cons_self)
      · obtain rfl := (List.cons.inj heq).2
        exact ⟨hne, hall, hvalue⟩
  · rename_i hplus
    rw [figures32?_eq_some_iff]
    constructor
    · exact fun h => ⟨text, .inl rfl, h⟩
    · rintro ⟨figures, rfl | rfl, hne, hall, hvalue⟩
      · exact ⟨hne, hall, hvalue⟩
      · exact absurd rfl (hplus figures)

/-- A number of 32 bits is read back from its figures. -/
theorem word32?_toDigits (n : UInt32) : word32? (Nat.toDigits 10 n.toNat) = some n :=
  word32?_eq_some_iff.mpr ⟨_, .inl rfl, Nat.toDigits_ne_nil, fun _ => isDigit_of_mem_toDigits,
    Nat.ofDigitChars_ten_toDigits⟩

end ContainerLint.Text
