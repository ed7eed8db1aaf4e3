import ContainerLint.Pattern.Cursor

/-!
# The places after a place

`Cursor.onward` lists a place and all places after it. Within this list a place is known by its
index, so numbers may stand for places. Offsets count the bytes of the text that was passed.
-/

namespace ContainerLint.Pattern.Cursor

/-- A place and the places after it, where `text` is what comes after the place. -/
def placesIn : List Char → Cursor → List Cursor
  | [], k => [k]
  | c :: rest, k => k :: placesIn rest (k.past c rest)

/-- A place and all places after it, from left to right. -/
def onward (k : Cursor) : List Cursor := placesIn k.rest k

@[simp] theorem past_rest (k : Cursor) (c : Char) (rest : List Char) :
    (k.past c rest).rest = rest := rfl

@[simp] theorem past_index (k : Cursor) (c : Char) (rest : List Char) :
    (k.past c rest).index = k.index + 1 := rfl

@[simp] theorem past_offset (k : Cursor) (c : Char) (rest : List Char) :
    (k.past c rest).offset = k.offset + c.utf8Size := rfl

@[simp] theorem past_before (k : Cursor) (c : Char) (rest : List Char) :
    (k.past c rest).before = some c := rfl

/-- The place some characters on, or the end of the text. -/
def forth : Nat → Cursor → Cursor
  | 0, k => k
  | n + 1, k =>
    match k.rest with
    | [] => k
    | c :: rest => forth n (k.past c rest)

/-- What holds at the end of a text, and before a character if it holds after it, holds at every
place. -/
theorem rest_induction {motive : Cursor → Prop} (nil : ∀ k, k.rest = [] → motive k)
    (cons : ∀ k c rest, k.rest = c :: rest → motive (k.past c rest) → motive k) (k : Cursor) :
    motive k := by
  generalize htext : k.rest = text
  induction text generalizing k with
  | nil => exact nil k htext
  | cons c rest ih => exact cons k c rest htext (ih (k.past c rest) rfl)

theorem onward_nil {k : Cursor} (h : k.rest = []) : k.onward = [k] := by
  rw [onward, h]
  rfl

theorem onward_cons {k : Cursor} {c : Char} {rest : List Char} (h : k.rest = c :: rest) :
    k.onward = k :: (k.past c rest).onward := by
  rw [onward, h]
  rfl

theorem self_mem_onward (k : Cursor) : k ∈ k.onward := by
  cases h : k.rest with
  | nil => simp [onward_nil h]
  | cons c rest => simp [onward_cons h]

theorem length_onward (k : Cursor) : k.onward.length = k.rest.length + 1 := by
  induction k using rest_induction with
  | nil k h => simp [onward_nil h, h]
  | cons k c rest h ih => simp [onward_cons h, h, ih]

/-- A place on the way has as many characters before it as are missing after it. -/
theorem index_of_mem_onward {k l : Cursor} (h : l ∈ k.onward) :
    k.index ≤ l.index ∧ l.index + l.rest.length = k.index + k.rest.length := by
  induction k using rest_induction with
  | nil k hrest =>
      rw [onward_nil hrest, List.mem_singleton] at h
      subst h
      exact ⟨Nat.le_refl _, rfl⟩
  | cons k c rest hrest ih =>
      rw [onward_cons hrest, List.mem_cons] at h
      rcases h with rfl | h
      · exact ⟨Nat.le_refl _, rfl⟩
      · obtain ⟨hle, hsum⟩ := ih h
        simp only [past_index, past_rest] at hle hsum
        rw [hrest, List.length_cons]
        omega

theorem rest_length_le {k l : Cursor} (h : l ∈ k.onward) : l.rest.length ≤ k.rest.length := by
  obtain ⟨hle, hsum⟩ := index_of_mem_onward h
  omega

/-- The places after a later place are among the places after an earlier one. -/
theorem mem_onward_trans {k l m : Cursor} (hl : l ∈ k.onward) (hm : m ∈ l.onward) :
    m ∈ k.onward := by
  induction k using rest_induction with
  | nil k hrest =>
      rw [onward_nil hrest, List.mem_singleton] at hl
      exact hl ▸ hm
  | cons k c rest hrest ih =>
      rw [onward_cons hrest, List.mem_cons] at hl
      rcases hl with rfl | hl
      · exact hm
      · rw [onward_cons hrest]
        exact List.mem_cons_of_mem _ (ih hl)

theorem past_mem_onward {k : Cursor} {c : Char} {rest : List Char} (h : k.rest = c :: rest) :
    k.past c rest ∈ k.onward := by
  rw [onward_cons h]
  exact List.mem_cons_of_mem _ (self_mem_onward _)

/-- Two places of one text with the same index are the same place. -/
theorem eq_of_index {k l m : Cursor} (hl : l ∈ k.onward) (hm : m ∈ k.onward)
    (hindex : l.index = m.index) : l = m := by
  induction k using rest_induction with
  | nil k hrest =>
      rw [onward_nil hrest, List.mem_singleton] at hl hm
      rw [hl, hm]
  | cons k c rest hrest ih =>
      rw [onward_cons hrest, List.mem_cons] at hl hm
      have hlater : ∀ {a}, a ∈ (k.past c rest).onward → k.index < a.index := fun ha =>
        (index_of_mem_onward ha).1
      rcases hl with rfl | hl <;> rcases hm with rfl | hm
      · rfl
      · exact absurd hindex (Nat.ne_of_lt (hlater hm))
      · exact absurd hindex.symm (Nat.ne_of_lt (hlater hl))
      · exact ih hl hm

/-! ## Some characters on -/

@[simp] theorem forth_zero (k : Cursor) : k.forth 0 = k := rfl

theorem forth_cons {k : Cursor} {c : Char} {rest : List Char} (h : k.rest = c :: rest) (n : Nat) :
    k.forth (n + 1) = (k.past c rest).forth n := by
  simp [forth, h]

theorem forth_nil {k : Cursor} (h : k.rest = []) (n : Nat) : k.forth n = k := by
  cases n <;> simp [forth, h]

theorem forth_rest (n : Nat) (k : Cursor) : (k.forth n).rest = k.rest.drop n := by
  induction n generalizing k with
  | zero => rfl
  | succ n ih =>
      cases h : k.rest with
      | nil => simp [forth_nil h, h]
      | cons c rest => rw [forth_cons h, ih, past_rest, List.drop_succ_cons]

theorem forth_index {n : Nat} {k : Cursor} (hn : n ≤ k.rest.length) :
    (k.forth n).index = k.index + n := by
  induction n generalizing k with
  | zero => rfl
  | succ n ih =>
      cases h : k.rest with
      | nil => simp [h] at hn
      | cons c rest =>
          rw [h, List.length_cons] at hn
          rw [forth_cons h, ih (Nat.le_of_succ_le_succ hn), past_index]
          omega

/-- Before the place is the last character that was passed. -/
theorem forth_before (n : Nat) (k : Cursor) :
    (k.forth n).before = (k.rest.take n).getLast?.or k.before := by
  induction n generalizing k with
  | zero => simp
  | succ n ih =>
      cases h : k.rest with
      | nil => simp [forth_nil h]
      | cons c rest =>
          rw [forth_cons h, ih, past_rest, past_before, List.take_succ_cons, List.getLast?_cons]
          cases (rest.take n).getLast? <;> rfl

theorem forth_forth (n m : Nat) (k : Cursor) : (k.forth n).forth m = k.forth (n + m) := by
  induction n generalizing k with
  | zero => rw [forth_zero, Nat.zero_add]
  | succ n ih =>
      cases h : k.rest with
      | nil => rw [forth_nil h, forth_nil h, forth_nil h]
      | cons c rest => rw [forth_cons h, ih, Nat.succ_add, forth_cons h]

/-- One more character on. -/
theorem forth_succ {n : Nat} {k : Cursor} {c : Char} {rest : List Char}
    (h : (k.forth n).rest = c :: rest) : k.forth (n + 1) = (k.forth n).past c rest := by
  rw [← forth_forth, forth_cons h]
  rfl

theorem forth_mem_onward (n : Nat) (k : Cursor) : k.forth n ∈ k.onward := by
  induction n generalizing k with
  | zero => exact self_mem_onward k
  | succ n ih =>
      cases h : k.rest with
      | nil => rw [forth_nil h]; exact self_mem_onward k
      | cons c rest =>
          rw [forth_cons h]
          exact mem_onward_trans (past_mem_onward h) (ih _)

/-- A later place is some characters on. -/
theorem eq_forth_of_mem_onward {k l : Cursor} (h : l ∈ k.onward) :
    l = k.forth (l.index - k.index) ∧ l.index - k.index ≤ k.rest.length := by
  obtain ⟨hle, hsum⟩ := index_of_mem_onward h
  have hbound : l.index - k.index ≤ k.rest.length := by omega
  refine ⟨eq_of_index h (forth_mem_onward _ k) ?_, hbound⟩
  rw [forth_index hbound]
  omega

/-- The places from a later place on come last. -/
theorem onward_eq_append {k l : Cursor} (h : l ∈ k.onward) :
    ∃ before, k.onward = before ++ l.onward ∧
      ∀ m ∈ before, m ∈ k.onward ∧ m.index < l.index := by
  induction k using rest_induction with
  | nil k hrest =>
      rw [onward_nil hrest, List.mem_singleton] at h
      exact ⟨[], by simp [h], by simp⟩
  | cons k c rest hrest ih =>
      rw [onward_cons hrest, List.mem_cons] at h
      rcases h with rfl | h
      · exact ⟨[], rfl, by simp⟩
      · obtain ⟨before, hbefore, hlt⟩ := ih h
        refine ⟨k :: before, by rw [onward_cons hrest, hbefore]; rfl, fun m hm => ?_⟩
        rcases List.mem_cons.mp hm with rfl | hm
        · exact ⟨self_mem_onward m, (index_of_mem_onward h).1⟩
        · obtain ⟨hmem, hindex⟩ := hlt m hm
          exact ⟨mem_onward_trans (past_mem_onward hrest) hmem, hindex⟩

/-- The text between a place and one some characters on. -/
theorem textTo_forth {n : Nat} {k : Cursor} (hn : n ≤ k.rest.length) :
    k.textTo (k.forth n) = k.rest.take n := by
  rw [textTo, forth_index hn, Nat.add_sub_cancel_left]

/-! ## Bytes -/

variable {k l : Cursor}

/-- Between two places stands the text that was passed. -/
theorem rest_eq_of_mem_onward (h : l ∈ k.onward) :
    k.rest = k.textTo l ++ l.rest ∧
      l.offset = k.offset + (String.ofList (k.textTo l)).utf8ByteSize := by
  induction k using rest_induction with
  | nil k hrest =>
      rw [onward_nil hrest, List.mem_singleton] at h
      subst h
      simp [textTo, hrest]
  | cons k c rest hrest ih =>
      rw [onward_cons hrest, List.mem_cons] at h
      rcases h with rfl | h
      · simp [textTo]
      · obtain ⟨htext, hoffset⟩ := ih h
        have hlt := (index_of_mem_onward h).1
        rw [past_index] at hlt
        have hpassed : k.textTo l = c :: (k.past c rest).textTo l := by
          rw [textTo, textTo, hrest, past_rest, past_index,
            show l.index - k.index = l.index - (k.index + 1) + 1 by omega, List.take_succ_cons]
        rw [hpassed, hoffset, String.ofList_cons, String.utf8ByteSize_append,
          String.utf8ByteSize_singleton, past_offset, List.cons_append, ← htext, hrest]
        exact ⟨rfl, Nat.add_assoc ..⟩

theorem offset_le (h : l ∈ k.onward) : k.offset ≤ l.offset := by
  rw [(rest_eq_of_mem_onward h).2]
  exact Nat.le_add_right ..

theorem offset_lt (h : l ∈ k.onward) (hindex : k.index < l.index) : k.offset < l.offset := by
  cases hrest : k.rest with
  | nil =>
      rw [onward_nil hrest, List.mem_singleton] at h
      exact absurd hindex (h ▸ Nat.lt_irrefl _)
  | cons c rest =>
      rw [onward_cons hrest, List.mem_cons] at h
      rcases h with rfl | h
      · exact absurd hindex (Nat.lt_irrefl _)
      · have hpassed := offset_le h
        rw [past_offset] at hpassed
        exact Nat.lt_of_lt_of_le (Nat.lt_add_of_pos_right c.utf8Size_pos) hpassed

end ContainerLint.Pattern.Cursor
