import ContainerLint.Json.Reader
import ContainerLint.Proofs.Json.Grammar
import ContainerLint.Proofs.Text.Figures
import ContainerLint.Proofs.Value.Sorted
import Mathlib.Data.List.DropRight
import Mathlib.Tactic.SplitIfs

/-!
# Reading what spells a value

A text that spells a value is read as this value, with its members sorted (`parse?_of_spells`). So
is what was written, in either form (`parse?_compact`, `parse?_pretty`).
-/

namespace ContainerLint.Json

variable {gap rest : List Char} {c : Char} {fuel : Nat}

/-! ## Blanks -/

theorem skip_blank (hgap : Blank gap) (rest : List Char) : skip (gap ++ rest) = skip rest :=
  List.dropWhile_append_of_pos hgap

theorem skip_cons (h : isBlank c = false) (rest : List Char) : skip (c :: rest) = c :: rest :=
  List.dropWhile_cons_of_neg (by simpa [isBlank] using h)

theorem skip_skip (text : List Char) : skip (skip text) = skip text :=
  List.dropWhile_idempotent _ text

theorem valueFrom_skip (fuel : Nat) (text : List Char) :
    valueFrom fuel (skip text) = valueFrom fuel text := by
  cases fuel with
  | zero => rfl
  | succ fuel => rw [valueFrom, valueFrom, skip_skip]

theorem valueFrom_blank (hgap : Blank gap) (fuel : Nat) (rest : List Char) :
    valueFrom fuel (gap ++ rest) = valueFrom fuel rest := by
  rw [← valueFrom_skip, skip_blank hgap, valueFrom_skip]

/-! ## Strings -/

theorem hexValue?_digitChar : ∀ n < 16, hexValue? (digitChar n) = some n := by
  decide

/-- A character by its number, below 32, in hexadecimal digits. -/
theorem unicodeEscape_control (h : c.toNat < 32) (rest : List Char) :
    unicodeEscape ('0' :: '0' :: digitChar (c.toNat / 16) :: digitChar (c.toNat % 16) :: rest) =
      some (c, rest) := by
  have hhigh := hexValue?_digitChar (c.toNat / 16) (by omega)
  have hlow := hexValue?_digitChar (c.toNat % 16) (by omega)
  have hhex : hex4 ('0' :: '0' :: digitChar (c.toNat / 16) :: digitChar (c.toNat % 16) :: rest) =
      some (c.toNat, rest) := by
    simp only [hex4, hhigh, hlow]
    show some (0 * 4096 + 0 * 256 + c.toNat / 16 * 16 + c.toNat % 16, rest) = _
    rw [show 0 * 4096 + 0 * 256 + c.toNat / 16 * 16 + c.toNat % 16 = c.toNat by omega]
  rw [unicodeEscape, hhex]
  show (if 0xD800 ≤ c.toNat ∧ c.toNat < 0xDC00 then _ else _) = _
  rw [if_neg (by omega), if_neg (by omega), Char.ofNat_toNat]

/-- A character of a string is read as it was written. -/
theorem stringFrom_stringChar (taken : List Char) (c : Char) (rest : List Char) :
    stringFrom (fuel + 1) taken (stringChar c ++ rest) = stringFrom fuel (c :: taken) rest := by
  rw [stringChar]
  split_ifs with hquote hslash hfeed hreturn htab hback hform hcontrol
  · subst hquote; rfl
  · subst hslash; rfl
  · subst hfeed; rfl
  · subst hreturn; rfl
  · subst htab; rfl
  · subst hback; rfl
  · subst hform; rfl
  · have hescape := unicodeEscape_control hcontrol rest
    simp only [List.cons_append, List.nil_append, stringFrom, escape, hescape]
    rfl
  · rw [List.singleton_append, stringFrom, if_neg hquote, if_neg hslash, if_neg hcontrol]

theorem stringFrom_chars (text taken rest : List Char) (hfuel : text.length < fuel) :
    stringFrom fuel taken (text.flatMap stringChar ++ '"' :: rest) =
      some (taken.reverse ++ text, rest) := by
  induction text generalizing taken fuel with
  | nil =>
      obtain ⟨fuel, rfl⟩ := Nat.exists_eq_add_of_lt hfuel
      simp [stringFrom]
  | cons c text ih =>
      obtain ⟨fuel, rfl⟩ : ∃ n, fuel = n + 1 := ⟨fuel - 1, by omega⟩
      rw [List.flatMap_cons, List.append_assoc, stringFrom_stringChar,
        ih (c :: taken) (by simpa using hfuel), List.reverse_cons, List.append_assoc,
        List.singleton_append]

theorem stringChar_length_pos (c : Char) : 0 < (stringChar c).length := by
  rw [stringChar]
  split_ifs <;> exact Nat.succ_pos _

theorem length_le_flatMap_stringChar (text : List Char) :
    text.length ≤ (text.flatMap stringChar).length := by
  induction text with
  | nil => exact Nat.le_refl _
  | cons c text ih =>
      have hpos := stringChar_length_pos c
      rw [List.flatMap_cons, List.length_append, List.length_cons]
      omega

/-- What stands between the quotes of a string is read as the string. -/
theorem stringFrom_string (s : String) (rest : List Char) :
    stringFrom ((s.toList.flatMap stringChar ++ '"' :: rest).length + 1) []
        (s.toList.flatMap stringChar ++ '"' :: rest) = some (s.toList, rest) := by
  have hlength := length_le_flatMap_stringChar s.toList
  refine stringFrom_chars s.toList [] rest ?_
  rw [List.length_append]
  omega

theorem string_append (s : String) (rest : List Char) :
    string s ++ rest = '"' :: (s.toList.flatMap stringChar ++ '"' :: rest) := by
  simp [string]

theorem key_string (hgap : Blank gap) (name : String) (rest : List Char) :
    key (gap ++ (string name ++ ':' :: rest)) = some (name, rest) := by
  rw [key, skip_blank hgap, string_append, skip_cons rfl]
  simp only [stringFrom_string]
  show some (String.ofList name.toList, rest) = _
  rw [String.ofList_toList]

/-! ## Numbers -/

/-- A text that does not go on with a number. -/
def Ends (text : List Char) : Prop :=
  ∀ c ∈ text.head?, c.isDigit = false ∧ c ≠ '.' ∧ c ≠ 'e' ∧ c ≠ 'E'

theorem ends_nil : Ends [] := by simp [Ends]

theorem ends_cons (h : c.isDigit = false ∧ c ≠ '.' ∧ c ≠ 'e' ∧ c ≠ 'E') (rest : List Char) :
    Ends (c :: rest) := by
  rintro _ ⟨⟩
  exact h

theorem ends_of_blank (hgap : Blank gap) (h : Ends rest) : Ends (gap ++ rest) := by
  cases gap with
  | nil => exact h
  | cons c gap =>
      have hc := hgap c List.mem_cons_self
      simp only [isBlank, Bool.or_eq_true, decide_eq_true_eq] at hc
      refine ends_cons ?_ _
      rcases hc with ((rfl | rfl) | rfl) | rfl <;> decide

theorem head?_toDigits_ne {n : Nat} (h : 0 < n) : (Nat.toDigits 10 n).head? ≠ some '0' := by
  induction n using Nat.strongRecOn with
  | ind n ih =>
      by_cases hsmall : n < 10
      · rw [Nat.toDigits_of_lt_base hsmall]
        have hall : ∀ m < 10, 0 < m → [m.digitChar].head? ≠ some '0' := by decide
        exact hall n hsmall h
      · rw [Nat.toDigits_of_base_le (by omega) (by omega), List.head?_append_of_ne_nil _
          Nat.toDigits_ne_nil]
        exact ih (n / 10) (by omega) (by omega)

theorem natOf_toDigits (n : Nat) : natOf (Nat.toDigits 10 n) = n := Text.figuresValue_toDigits n

theorem takeWhile_isDigit (n : Nat) (h : Ends rest) :
    (Nat.toDigits 10 n ++ rest).takeWhile Char.isDigit = Nat.toDigits 10 n ∧
      (Nat.toDigits 10 n ++ rest).dropWhile Char.isDigit = rest := by
  have hdigits : ∀ c ∈ Nat.toDigits 10 n, c.isDigit = true :=
    fun c hc => Text.isDigit_of_mem_toDigits hc
  rw [List.takeWhile_append_of_pos hdigits, List.dropWhile_append_of_pos hdigits]
  cases rest with
  | nil => simp
  | cons c rest =>
      obtain ⟨hc, -⟩ := h c rfl
      simp [hc]

theorem exponent_of_ends (h : Ends rest) : exponent rest = some (none, rest) := by
  cases rest with
  | nil => rfl
  | cons c rest =>
      obtain ⟨-, -, he, hE⟩ := h c rfl
      have hnone : ¬(c = 'e' ∨ c = 'E') := not_or.mpr ⟨he, hE⟩
      simp only [exponent, if_neg hnone]

/-- The digits of a number are read as the number. -/
theorem number_toDigits (negative : Bool) (n : Nat) (h : Ends rest) :
    number negative (Nat.toDigits 10 n ++ rest) =
      if negative then
        if 0 < n ∧ n ≤ 9223372036854775808 then some (.int (-(n : Int)), rest)
        else some (floatOf true n 0, rest)
      else if n < 18446744073709551616 then some (.int n, rest)
      else some (floatOf false n 0, rest) := by
  obtain ⟨htake, hdrop⟩ := takeWhile_isDigit n h
  have hwhole : ¬((Nat.toDigits 10 n).isEmpty ∨
      ((Nat.toDigits 10 n).length > 1 ∧ (Nat.toDigits 10 n).head? = some '0')) := by
    rintro (hempty | ⟨hlength, hhead⟩)
    · exact Nat.toDigits_ne_nil (List.isEmpty_iff.mp hempty)
    · rcases Nat.eq_zero_or_pos n with rfl | hpos
      · exact absurd hlength (by decide)
      · exact head?_toDigits_ne hpos hhead
  rw [number, htake, hdrop, if_neg hwhole]
  -- The answer is hidden, so that the case split is on the text after the digits.
  generalize hanswer : (if negative = true then _ else _ : Option (Value × List Char)) = answer
  simp only [Option.bind_eq_bind, Option.bind_some, natOf_toDigits]
  split
  · obtain ⟨-, hdot, -⟩ := h '.' rfl
    exact absurd rfl hdot
  · rw [exponent_of_ends h]
    exact hanswer

theorem isBlank_of_isDigit (h : c.isDigit = true) : isBlank c = false := by
  rw [Bool.eq_false_iff]
  intro hblank
  simp only [isBlank, Bool.or_eq_true, decide_eq_true_eq] at hblank
  rcases hblank with ((rfl | rfl) | rfl) | rfl <;> cases h

theorem valueFrom_digit (h : c.isDigit = true) (rest : List Char) :
    valueFrom (fuel + 1) (c :: rest) = number false (c :: rest) := by
  rw [valueFrom, skip_cons (isBlank_of_isDigit h)]
  -- All cases but the last start with a character that is no digit.
  split
  case h_8 => rfl
  all_goals
    rename_i heq
    cases heq
    cases h

theorem toDigits_head (n : Nat) :
    ∃ c digits, Nat.toDigits 10 n = c :: digits ∧ c.isDigit = true := by
  cases hdigits : Nat.toDigits 10 n with
  | nil => exact absurd hdigits Nat.toDigits_ne_nil
  | cons c digits =>
      have hc : c ∈ Nat.toDigits 10 n := hdigits ▸ List.mem_cons_self
      exact ⟨c, digits, rfl, Text.isDigit_of_mem_toDigits hc⟩

theorem scalar_ofNat (n : Nat) : scalar (.int (Int.ofNat n)) = Nat.toDigits 10 n := by
  show (toString n).toList = _
  rw [Nat.toString_eq_ofList_toDigits, String.toList_ofList]

theorem scalar_negSucc (n : Nat) :
    scalar (.int (Int.negSucc n)) = '-' :: Nat.toDigits 10 (n + 1) := by
  show ("-" ++ (n + 1).repr).toList = _
  rw [String.toList_append, Nat.repr_eq_ofList_toDigits]
  exact congrArg ('-' :: ·) String.toList_ofList

/-- A whole number of 64 bits is read as it was written. -/
theorem valueFrom_int {n : Int} (low : -9223372036854775808 ≤ n)
    (high : n < 18446744073709551616) (h : Ends rest) :
    valueFrom (fuel + 1) (scalar (.int n) ++ rest) = some (.int n, rest) := by
  cases n with
  | ofNat n =>
      obtain ⟨c, digits, hdigits, hc⟩ := toDigits_head n
      rw [scalar_ofNat, hdigits, List.cons_append, valueFrom_digit hc, ← List.cons_append,
        ← hdigits, number_toDigits false n h]
      simp only [Bool.false_eq_true, if_false]
      rw [if_pos (Int.ofNat_lt.mp high)]
      rfl
  | negSucc n =>
      rw [scalar_negSucc]
      show number true (Nat.toDigits 10 (n + 1) ++ rest) = _
      rw [number_toDigits true (n + 1) h]
      simp only [if_true]
      rw [if_pos (by omega)]
      rfl

/-! ## Values

Whatever is read takes at least one character of the text and one unit of fuel, so a text never
needs more fuel than it is long.
-/

theorem valueFrom_string (s : String) (rest : List Char) :
    valueFrom (fuel + 1) (string s ++ rest) = some (.str s, rest) := by
  rw [string_append, valueFrom, skip_cons rfl]
  simp only [stringFrom_string]
  show some (Value.str (String.ofList s.toList), rest) = _
  rw [String.ofList_toList]

/-- What spells a value starts with neither a blank nor a bracket that closes. -/
theorem Spells.head {text : List Char} {v : Value} (h : Spells text v) :
    ∃ c tail, text = c :: tail ∧ isBlank c = false ∧ c ≠ ']' := by
  cases h with
  | null => exact ⟨_, _, rfl, rfl, by decide⟩
  | bool b => cases b <;> exact ⟨_, _, rfl, rfl, by decide⟩
  | @int n low high =>
      cases n with
      | ofNat n =>
          obtain ⟨c, digits, hdigits, hc⟩ := toDigits_head n
          refine ⟨c, digits, (scalar_ofNat n).trans hdigits, isBlank_of_isDigit hc, ?_⟩
          rintro rfl
          cases hc
      | negSucc n => exact ⟨_, _, scalar_negSucc n, rfl, by decide⟩
  | str s => exact ⟨_, _, rfl, rfl, by decide⟩
  | noItems hgap => exact ⟨_, _, rfl, rfl, by decide⟩
  | arr h => exact ⟨_, _, rfl, rfl, by decide⟩
  | noMembers hgap => exact ⟨_, _, rfl, rfl, by decide⟩
  | obj h => exact ⟨_, _, rfl, rfl, by decide⟩

theorem Spells.length_pos {text : List Char} {v : Value} (h : Spells text v) :
    0 < text.length := by
  obtain ⟨c, tail, rfl, -⟩ := h.head
  exact Nat.succ_pos _

theorem itemsFrom_skip (fuel : Nat) (found : List Value) (text : List Char) :
    itemsFrom fuel found (skip text) = itemsFrom fuel found text := by
  cases fuel with
  | zero => rfl
  | succ fuel => rw [itemsFrom, itemsFrom, valueFrom_skip]

theorem membersFrom_skip (fuel : Nat) (found : List (String × Value)) (text : List Char) :
    membersFrom fuel found (skip text) = membersFrom fuel found text := by
  cases fuel with
  | zero => rfl
  | succ fuel => rw [membersFrom, membersFrom, key, key, skip_skip]

theorem SpellsItems.skip_head {text : List Char} {items : List Value}
    (h : SpellsItems text items) (rest : List Char) :
    ∃ c tail, skip (text ++ rest) = c :: tail ∧ c ≠ ']' := by
  cases h with
  | last hgap h hgap' | more hgap h hgap' htail =>
      obtain ⟨c, tail, rfl, hblank, hne⟩ := h.head
      rw [List.append_assoc, skip_blank hgap, List.append_assoc, List.cons_append,
        skip_cons hblank]
      exact ⟨_, _, rfl, hne⟩

theorem SpellsMembers.skip_head {text : List Char} {members : List (String × Value)}
    (h : SpellsMembers text members) (rest : List Char) :
    ∃ tail, skip (text ++ rest) = '"' :: tail := by
  cases h with
  | last hgap hspace h hgap' | more hgap hspace h hgap' htail =>
      rw [List.append_assoc, skip_blank hgap, List.append_assoc, string_append, skip_cons rfl]
      exact ⟨_, rfl⟩

/-- The items of an array are read after its opening bracket. -/
theorem valueFrom_arr {text : List Char} {items : List Value} (h : SpellsItems text items)
    (rest : List Char) :
    valueFrom (fuel + 1) ('[' :: (text ++ rest)) = itemsFrom fuel [] (text ++ rest) := by
  obtain ⟨c, tail, hskip, hne⟩ := h.skip_head rest
  rw [← itemsFrom_skip, valueFrom, skip_cons rfl]
  simp only [hskip]
  split
  · rename_i heq
    cases heq
    exact absurd rfl hne
  · rfl

/-- The members of an object are read after its opening brace. -/
theorem valueFrom_obj {text : List Char} {members : List (String × Value)}
    (h : SpellsMembers text members) (rest : List Char) :
    valueFrom (fuel + 1) ('\x7b' :: (text ++ rest)) = membersFrom fuel [] (text ++ rest) := by
  obtain ⟨tail, hskip⟩ := h.skip_head rest
  rw [← membersFrom_skip, valueFrom, skip_cons rfl]
  simp only [hskip]
  rfl

section Steps

variable {space text gap' : List Char} {name : String} {v : Value} {found : List Value}
  {members : List (String × Value)}

/-- After the last item the array is complete. -/
theorem itemsFrom_last (hgap : Blank gap) (hgap' : Blank gap')
    (h : valueFrom fuel (text ++ (gap' ++ ']' :: rest)) = some (v, gap' ++ ']' :: rest)) :
    itemsFrom (fuel + 1) found (gap ++ (text ++ (gap' ++ ']' :: rest))) =
      some (.arr (v :: found).reverse, rest) := by
  rw [itemsFrom, valueFrom_blank hgap, h]
  simp only [Option.bind_eq_bind, Option.bind_some, skip_blank hgap']
  rfl

/-- After an item and a comma more items are read. -/
theorem itemsFrom_more (hgap : Blank gap) (hgap' : Blank gap')
    (h : valueFrom fuel (text ++ (gap' ++ ',' :: rest)) = some (v, gap' ++ ',' :: rest)) :
    itemsFrom (fuel + 1) found (gap ++ (text ++ (gap' ++ ',' :: rest))) =
      itemsFrom fuel (v :: found) rest := by
  rw [itemsFrom, valueFrom_blank hgap, h]
  simp only [Option.bind_eq_bind, Option.bind_some, skip_blank hgap']
  rfl

/-- After the last member the object is complete. -/
theorem membersFrom_last (hgap : Blank gap) (hspace : Blank space) (hgap' : Blank gap')
    (h : valueFrom fuel (text ++ (gap' ++ '\x7d' :: rest)) = some (v, gap' ++ '\x7d' :: rest)) :
    membersFrom (fuel + 1) members
        (gap ++ (string name ++ ':' :: (space ++ (text ++ (gap' ++ '\x7d' :: rest))))) =
      some (.ofMembers ((name, v) :: members).reverse, rest) := by
  rw [membersFrom, key_string hgap]
  simp only [Option.bind_eq_bind, Option.bind_some, valueFrom_blank hspace, h, skip_blank hgap']
  rfl

/-- After a member and a comma more members are read. -/
theorem membersFrom_more (hgap : Blank gap) (hspace : Blank space) (hgap' : Blank gap')
    (h : valueFrom fuel (text ++ (gap' ++ ',' :: rest)) = some (v, gap' ++ ',' :: rest)) :
    membersFrom (fuel + 1) members
        (gap ++ (string name ++ ':' :: (space ++ (text ++ (gap' ++ ',' :: rest))))) =
      membersFrom fuel ((name, v) :: members) rest := by
  rw [membersFrom, key_string hgap]
  simp only [Option.bind_eq_bind, Option.bind_some, valueFrom_blank hspace, h, skip_blank hgap']
  rfl

end Steps

mutual

/-- What spells a value is read as the value, with its members sorted. -/
theorem valueFrom_of_spells {text rest : List Char} {v : Value} {fuel : Nat}
    (h : Spells text v) (hrest : Ends rest) (hfuel : text.length ≤ fuel) :
    valueFrom fuel (text ++ rest) = some (v.sorted, rest) := by
  have hpos := h.length_pos
  obtain ⟨fuel, rfl⟩ : ∃ n, fuel = n + 1 := ⟨fuel - 1, by omega⟩
  cases h with
  | null => rfl
  | bool b => cases b <;> rfl
  | int low high => exact valueFrom_int low high hrest
  | str s => exact valueFrom_string s rest
  | noItems hgap =>
      rw [List.cons_append, List.append_assoc, valueFrom, skip_cons rfl]
      simp only [skip_blank hgap]
      rfl
  | arr h =>
      rw [List.cons_append, valueFrom_arr h,
        itemsFrom_of_spells h (Nat.le_of_succ_le_succ hfuel)]
      rfl
  | noMembers hgap =>
      rw [List.cons_append, List.append_assoc, valueFrom, skip_cons rfl]
      simp only [skip_blank hgap]
      rfl
  | obj h =>
      rw [List.cons_append, valueFrom_obj h,
        membersFrom_of_spells h (Nat.le_of_succ_le_succ hfuel)]
      rfl

/-- What spells items is read as an array of them and of those found before. -/
theorem itemsFrom_of_spells {text rest : List Char} {items found : List Value} {fuel : Nat}
    (h : SpellsItems text items) (hfuel : text.length ≤ fuel) :
    itemsFrom fuel found (text ++ rest) =
      some (.arr (found.reverse ++ Value.sortedItems items), rest) := by
  cases h with
  | @last gap text gap' v hgap h hgap' =>
      simp only [List.length_append, List.length_singleton] at hfuel
      obtain ⟨fuel, rfl⟩ : ∃ n, fuel = n + 1 := ⟨fuel - 1, by omega⟩
      have hlength : text.length ≤ fuel := by omega
      have hend : Ends (gap' ++ ']' :: rest) := ends_of_blank hgap' (ends_cons (by decide) rest)
      simp only [List.append_assoc, List.singleton_append]
      rw [itemsFrom_last hgap hgap' (valueFrom_of_spells h hend hlength)]
      simp [Value.sortedItems]
  | @more gap text gap' tail v items hgap h hgap' htail =>
      simp only [List.length_append, List.length_cons] at hfuel
      obtain ⟨fuel, rfl⟩ : ∃ n, fuel = n + 1 := ⟨fuel - 1, by omega⟩
      have hlength : text.length ≤ fuel := by omega
      have hrest : tail.length ≤ fuel := by omega
      have hend : Ends (gap' ++ ',' :: (tail ++ rest)) :=
        ends_of_blank hgap' (ends_cons (by decide) _)
      have hitems : itemsFrom fuel (v.sorted :: found) (tail ++ rest) = _ :=
        itemsFrom_of_spells htail hrest
      simp only [List.append_assoc, List.cons_append]
      rw [itemsFrom_more hgap hgap' (valueFrom_of_spells h hend hlength)]
      simpa [Value.sortedItems] using hitems

/-- What spells members is read as an object of them and of those found before. -/
theorem membersFrom_of_spells {text rest : List Char} {members found : List (String × Value)}
    {fuel : Nat} (h : SpellsMembers text members) (hfuel : text.length ≤ fuel) :
    membersFrom fuel found (text ++ rest) =
      some (.ofMembers (found.reverse ++ Value.sortedMembers members), rest) := by
  cases h with
  | @last gap space text gap' name v hgap hspace h hgap' =>
      simp only [List.length_append, List.length_cons] at hfuel
      obtain ⟨fuel, rfl⟩ : ∃ n, fuel = n + 1 := ⟨fuel - 1, by omega⟩
      have hlength : text.length ≤ fuel := by omega
      have hend : Ends (gap' ++ '\x7d' :: rest) :=
        ends_of_blank hgap' (ends_cons (by decide) rest)
      simp only [List.append_assoc, List.cons_append, List.nil_append]
      rw [membersFrom_last hgap hspace hgap' (valueFrom_of_spells h hend hlength)]
      simp [Value.sortedMembers]
  | @more gap space text gap' tail name v members hgap hspace h hgap' htail =>
      simp only [List.length_append, List.length_cons] at hfuel
      obtain ⟨fuel, rfl⟩ : ∃ n, fuel = n + 1 := ⟨fuel - 1, by omega⟩
      have hlength : text.length ≤ fuel := by omega
      have hrest : tail.length ≤ fuel := by omega
      have hend : Ends (gap' ++ ',' :: (tail ++ rest)) :=
        ends_of_blank hgap' (ends_cons (by decide) _)
      have hmembers : membersFrom fuel ((name, v.sorted) :: found) (tail ++ rest) = _ :=
        membersFrom_of_spells htail hrest
      simp only [List.append_assoc, List.cons_append]
      rw [membersFrom_more hgap hspace hgap' (valueFrom_of_spells h hend hlength)]
      simpa [Value.sortedMembers] using hmembers

end

/-- A text that spells a value, with blanks around it, is read as the value. -/
theorem parse?_of_spells {text gap' : List Char} {v : Value} (hgap : Blank gap)
    (h : Spells text v) (hgap' : Blank gap') :
    parse? (String.ofList (gap ++ (text ++ gap'))) = some v.sorted := by
  have hend : Ends gap' := List.append_nil gap' ▸ ends_of_blank hgap' ends_nil
  have hskip : skip gap' = [] := by
    have := skip_blank hgap' []
    rwa [List.append_nil] at this
  rw [parse?, String.toList_ofList, valueFrom_blank hgap, valueFrom_of_spells h hend]
  · simp [hskip]
  · simp only [List.length_append]
    omega

/-- Data that is written without spaces is read back, with its members sorted. -/
theorem parse?_compact {v : Value} (h : v.Plain) : parse? (compact v) = some v.sorted := by
  have hparse := parse?_of_spells blank_nil (spells_compact h) blank_nil
  rwa [List.append_nil] at hparse

/-- Data that is written over several lines is read back, with its members sorted. -/
theorem parse?_pretty {v : Value} (h : v.Plain) : parse? (pretty v) = some v.sorted := by
  have hparse := parse?_of_spells blank_nil (spells_pretty h 0) blank_nil
  rwa [List.append_nil] at hparse

end ContainerLint.Json
