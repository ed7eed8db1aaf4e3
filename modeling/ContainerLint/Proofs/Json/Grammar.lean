import ContainerLint.Json.Writer

/-!
# Texts that spell values

`Spells text v` says that a JSON text spells a value, with blanks in whatever places they may
stand. What is written, over several lines or without any space, is such a text
(`spells_compact`, `spells_pretty`). Floating-point numbers are left out, and so are whole numbers
of more than 64 bits: a value without them is `Plain`.
-/

namespace ContainerLint

/-- Data without floating-point numbers, in which whole numbers fit 64 bits, signed or
unsigned. -/
inductive Value.Plain : Value → Prop
  | null : Plain .null
  | bool (b : Bool) : Plain (.bool b)
  | int {n : Int} (low : -9223372036854775808 ≤ n) (high : n < 18446744073709551616) :
      Plain (.int n)
  | str (s : String) : Plain (.str s)
  | arr {items : List Value} (h : ∀ v ∈ items, Plain v) : Plain (.arr items)
  | obj {members : List (String × Value)} (h : ∀ m ∈ members, Plain m.2) : Plain (.obj members)

namespace Json

/-- Whether a character can stand between the parts of a text without meaning anything. -/
def isBlank (c : Char) : Bool := c = ' ' || c = '\n' || c = '\t' || c = '\r'

/-- A text that means nothing. -/
def Blank (text : List Char) : Prop := ∀ c ∈ text, isBlank c = true

theorem blank_nil : Blank [] := by simp [Blank]

theorem blank_space : Blank [' '] := by
  intro c hc
  rw [List.mem_singleton.mp hc]
  rfl

theorem blank_lineBreak (level : Nat) : Blank (lineBreak level) := by
  intro c hc
  rcases List.mem_cons.mp hc with rfl | hc
  · rfl
  · rw [List.eq_of_mem_replicate hc]
    rfl

mutual

/-- A text spells a value. -/
inductive Spells : List Char → Value → Prop
  | null : Spells (scalar .null) .null
  | bool (b : Bool) : Spells (scalar (.bool b)) (.bool b)
  | int {n : Int} (low : -9223372036854775808 ≤ n) (high : n < 18446744073709551616) :
      Spells (scalar (.int n)) (.int n)
  | str (s : String) : Spells (string s) (.str s)
  | noItems {gap : List Char} (hgap : Blank gap) : Spells ('[' :: (gap ++ [']'])) (.arr [])
  | arr {text : List Char} {items : List Value} (h : SpellsItems text items) :
      Spells ('[' :: text) (.arr items)
  | noMembers {gap : List Char} (hgap : Blank gap) :
      Spells ('\x7b' :: (gap ++ ['\x7d'])) (.obj [])
  | obj {text : List Char} {members : List (String × Value)} (h : SpellsMembers text members) :
      Spells ('\x7b' :: text) (.obj members)

/-- A text spells the items of an array, at least one, and ends with the bracket after them. -/
inductive SpellsItems : List Char → List Value → Prop
  | last {gap text gap' : List Char} {v : Value} (hgap : Blank gap) (h : Spells text v)
      (hgap' : Blank gap') : SpellsItems (gap ++ (text ++ (gap' ++ [']']))) [v]
  | more {gap text gap' rest : List Char} {v : Value} {items : List Value} (hgap : Blank gap)
      (h : Spells text v) (hgap' : Blank gap') (hrest : SpellsItems rest items) :
      SpellsItems (gap ++ (text ++ (gap' ++ ',' :: rest))) (v :: items)

/-- A text spells the members of an object, at least one, and ends with the brace after them. -/
inductive SpellsMembers : List Char → List (String × Value) → Prop
  | last {gap space text gap' : List Char} {key : String} {v : Value} (hgap : Blank gap)
      (hspace : Blank space) (h : Spells text v) (hgap' : Blank gap') :
      SpellsMembers (gap ++ (string key ++ ':' :: (space ++ (text ++ (gap' ++ ['\x7d'])))))
        [(key, v)]
  | more {gap space text gap' rest : List Char} {key : String} {v : Value}
      {members : List (String × Value)} (hgap : Blank gap) (hspace : Blank space)
      (h : Spells text v) (hgap' : Blank gap') (hrest : SpellsMembers rest members) :
      SpellsMembers (gap ++ (string key ++ ':' :: (space ++ (text ++ (gap' ++ ',' :: rest)))))
        ((key, v) :: members)

end

/-! ## What is written -/

variable {gap space close : List Char} {write : Value → List Char}

/-- Items with commas between them, each after the same gap. -/
theorem spellsItems_of_join (join : List Value → List Char)
    (hone : ∀ v, join [v] = gap ++ write v)
    (hmore : ∀ v w rest, join (v :: w :: rest) = gap ++ write v ++ ',' :: join (w :: rest))
    (hgap : Blank gap) (hclose : Blank close) {v : Value} {rest : List Value}
    (h : ∀ w ∈ v :: rest, Spells (write w) w) :
    SpellsItems (join (v :: rest) ++ close ++ [']']) (v :: rest) := by
  have hv := h v List.mem_cons_self
  induction rest generalizing v with
  | nil =>
      rw [hone]
      simpa using SpellsItems.last hgap hv hclose
  | cons w rest ih =>
      have hrest := fun u hu => h u (List.mem_cons_of_mem v hu)
      rw [hmore]
      simpa using SpellsItems.more hgap hv blank_nil (ih hrest (hrest w List.mem_cons_self))

/-- Members with commas between them, each after the same gap. -/
theorem spellsMembers_of_join (join : List (String × Value) → List Char)
    (hone : ∀ key v, join [(key, v)] = gap ++ string key ++ ':' :: (space ++ write v))
    (hmore : ∀ key v m rest, join ((key, v) :: m :: rest) =
      gap ++ string key ++ ':' :: (space ++ write v) ++ ',' :: join (m :: rest))
    (hgap : Blank gap) (hspace : Blank space) (hclose : Blank close) {m : String × Value}
    {rest : List (String × Value)} (h : ∀ m' ∈ m :: rest, Spells (write m'.2) m'.2) :
    SpellsMembers (join (m :: rest) ++ close ++ ['\x7d']) (m :: rest) := by
  have hm := h m List.mem_cons_self
  induction rest generalizing m with
  | nil =>
      rw [hone]
      simpa using SpellsMembers.last hgap hspace hm hclose
  | cons m' rest ih =>
      have hrest := fun u hu => h u (List.mem_cons_of_mem m hu)
      rw [hmore]
      simpa using SpellsMembers.more hgap hspace hm blank_nil
        (ih hrest (hrest m' List.mem_cons_self))

/-- Data written without spaces. -/
theorem spells_compact {v : Value} (h : v.Plain) : Spells (compactChars v) v := by
  induction h with
  | null => exact .null
  | bool b => exact .bool b
  | int low high => exact .int low high
  | str s => exact .str s
  | @arr items _ ih =>
      cases items with
      | nil => exact .noItems blank_nil
      | cons v rest =>
          have hitems := spellsItems_of_join compactItems (fun v => rfl)
            (fun v w rest => rfl) blank_nil blank_nil ih
          rw [List.append_nil] at hitems
          exact .arr hitems
  | @obj members _ ih =>
      cases members with
      | nil => exact .noMembers blank_nil
      | cons m rest =>
          have hmembers := spellsMembers_of_join compactMembers (fun key v => rfl)
            (fun key v m rest => rfl) blank_nil blank_nil blank_nil ih
          rw [List.append_nil] at hmembers
          exact .obj hmembers

/-- Data written over several lines. -/
theorem spells_pretty {v : Value} (h : v.Plain) (level : Nat) :
    Spells (prettyChars level v) v := by
  induction h generalizing level with
  | null => exact .null
  | bool b => exact .bool b
  | int low high => exact .int low high
  | str s => exact .str s
  | @arr items _ ih =>
      cases items with
      | nil => exact .noItems blank_nil
      | cons v rest =>
          exact .arr (spellsItems_of_join (prettyItems (level + 1)) (fun v => rfl)
            (fun v w rest => rfl) (blank_lineBreak _) (blank_lineBreak _)
            fun w hw => ih w hw (level + 1))
  | @obj members _ ih =>
      cases members with
      | nil => exact .noMembers blank_nil
      | cons m rest =>
          exact .obj (spellsMembers_of_join (prettyMembers (level + 1)) (fun key v => rfl)
            (fun key v m rest => rfl) (blank_lineBreak _) blank_space
            (blank_lineBreak _) fun m hm => ih m hm (level + 1))

end Json

end ContainerLint
