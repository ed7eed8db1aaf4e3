import ContainerLint.Proofs.Json.Grammar
import ContainerLint.Proofs.Value.Sorted
import ContainerLint.Value.Decode
import Mathlib.Data.List.Forall2

/-!
# Records that are written and read back

`Faithful write read` says that what is written as data is read back, in whatever order the
members of its objects stand. For a record this follows field by field: `Agrees` ties a field as
it is written to the test that it is put to, and `Placed` gives the fields of the record that is
read.
-/

namespace ContainerLint

/-! ## Putting members in another order -/

/-- A way to put the members of all objects in another order: under each key the same is found as
before, itself put in order, and no member is made up. -/
structure Arranges (f : Value → Value) : Prop where
  null : f .null = .null
  bool (b : Bool) : f (.bool b) = .bool b
  int (n : Int) : f (.int n) = .int n
  str (s : String) : f (.str s) = .str s
  arr (items : List Value) : f (.arr items) = .arr (items.map f)
  obj {members : List (String × Value)} (hkeys : (members.map Prod.fst).Nodup) :
    ∃ placed, f (.obj members) = .obj placed ∧
      (∀ key, placed.lookup key = (members.lookup key).map f) ∧
      ∀ m ∈ placed, ∃ v, (m.1, v) ∈ members ∧ m.2 = f v

/-- All members may stay where they are. -/
theorem arranges_id : Arranges id where
  null := rfl
  bool _ := rfl
  int _ := rfl
  str _ := rfl
  arr _ := by simp
  obj {members} _ := by
    refine ⟨members, rfl, fun key => ?_, fun m hm => ⟨m.2, hm, rfl⟩⟩
    rw [Option.map_id, id]

/-- All members may be sorted. -/
theorem arranges_sorted : Arranges Value.sorted where
  null := rfl
  bool _ := rfl
  int _ := rfl
  str _ := rfl
  arr items := by rw [Value.sorted, Value.sortedItems_eq_map]
  obj hkeys := Value.sorted_obj hkeys

/-! ## Values that are read back -/

variable {α : Type}

/-- What is written is plain data, not `null`, and read back. -/
structure Faithful (write : α → Value) (read : Value → Decoded α) : Prop where
  plain (a : α) : (write a).Plain
  present {f : Value → Value} (hf : Arranges f) (a : α) : f (write a) ≠ .null
  reads {f : Value → Value} (hf : Arranges f) (a : α) : read (f (write a)) = .ok a

variable {write : α → Value} {read : Value → Decoded α} {f : Value → Value}

/-- What may be absent as data: `null`, if it is. -/
def orNull (write : α → Value) : Option α → Value
  | some a => write a
  | none => .null

theorem Faithful.option (h : Faithful write read) (hf : Arranges f) (a : Option α) :
    Decode.option read (f (orNull write a)) = .ok a := by
  cases a with
  | none => rw [orNull, hf.null, Decode.option]
  | some a =>
      have hnull := h.present hf a
      have hreads := h.reads hf a
      rw [orNull]
      cases hv : f (write a) with
      | null => exact absurd hv hnull
      | _ =>
          rw [hv] at hreads
          simp only [Decode.option, hreads]
          rfl

theorem Faithful.mapM (h : Faithful write read) (hf : Arranges f) (as : List α) :
    ((as.map write).map f).mapM read = .ok as := by
  induction as with
  | nil => rfl
  | cons a as ih =>
      rw [List.map_cons, List.map_cons, List.mapM_cons, h.reads hf, ih]
      rfl

theorem Faithful.list (h : Faithful write read) :
    Faithful (fun as => .arr (as.map write)) (Decode.list read) where
  plain as := by
    refine .arr fun v hv => ?_
    obtain ⟨a, -, rfl⟩ := List.mem_map.mp hv
    exact h.plain a
  present hf as := by
    rw [hf.arr]
    exact Value.noConfusion
  reads hf as := by
    rw [hf.arr, Decode.list, h.mapM hf]

theorem text_faithful : Faithful .str Decode.text where
  plain s := .str s
  present hf s := by simp [hf.str]
  reads hf s := by rw [hf.str, Decode.text]

theorem bool_faithful : Faithful .bool Decode.bool where
  plain b := .bool b
  present hf b := by simp [hf.bool]
  reads hf b := by rw [hf.bool, Decode.bool]

theorem natBelow_ofNat {bound n : Nat} (expected : String) (h : n < bound) :
    Decode.natBelow bound expected (.int n) = .ok n := by
  have hrange : 0 ≤ (n : Int) ∧ (n : Int) < bound := ⟨Int.natCast_nonneg n, Int.ofNat_lt.mpr h⟩
  rw [Decode.natBelow, if_pos hrange, Int.toNat_natCast]

theorem plain_ofNat {n : Nat} (h : n < 18446744073709551616) : (Value.int n).Plain :=
  .int (by omega) (by omega)

/-- The number of a group as data. -/
def indexValue (n : UInt64) : Value := .int n.toNat

theorem index_faithful : Faithful indexValue Decode.index where
  plain n := plain_ofNat n.toNat_lt
  present hf n := by simp [indexValue, hf.int]
  reads hf n := by
    rw [indexValue, hf.int, Decode.index, natBelow_ofNat _ n.toNat_lt]
    exact congrArg Except.ok UInt64.ofNat_toNat

/-- A line or column number as data. -/
def word32Value (n : UInt32) : Value := .int n.toNat

theorem word32_faithful : Faithful word32Value Decode.word32 where
  plain n := plain_ofNat (Nat.lt_trans n.toNat_lt (by decide))
  present hf n := by simp [word32Value, hf.int]
  reads hf n := by
    rw [word32Value, hf.int, Decode.word32, natBelow_ofNat _ n.toNat_lt]
    exact congrArg Except.ok UInt32.ofNat_toNat

/-! ## Fields -/

/-- The members for fields, of which some may be left out. -/
def membersOf (written : List (String × Option Value)) : List (String × Value) :=
  written.filterMap fun field => field.2.map fun v => (field.1, v)

/-- A field as it is written, and the test under its name when it is read. It can be left out when
it is not set, or always be written, if only as `null`. -/
inductive Agrees : String × Option Value → String × (Value → Decoded Unit) → Prop
  | leftOut {α : Type} {write : α → Value} {read : Value → Decoded α} (name : String)
      (h : Faithful write read) (a : Option α) :
      Agrees (name, a.map write) (name, Decode.check (Decode.option read))
  | always {α : Type} {write : α → Value} {read : Value → Decoded α} (name : String)
      (h : Faithful write read) (a : α) : Agrees (name, some (write a)) (name, Decode.check read)
  | nullable {α : Type} {write : α → Value} {read : Value → Decoded α} (name : String)
      (h : Faithful write read) (a : Option α) :
      Agrees (name, some (orNull write a)) (name, Decode.check (Decode.option read))

variable {written : List (String × Option Value)}
  {checks : List (String × (Value → Decoded Unit))}
  {field : String × Option Value} {test : String × (Value → Decoded Unit)} {v : Value}

theorem Agrees.name_eq (h : Agrees field test) : field.1 = test.1 := by
  cases h <;> rfl

theorem Agrees.plain (h : Agrees field test) (hv : field.2 = some v) : v.Plain := by
  cases h with
  | leftOut _ h a =>
      obtain ⟨a, -, rfl⟩ := Option.map_eq_some_iff.mp hv
      exact h.plain a
  | always _ h a =>
      cases hv
      exact h.plain a
  | nullable _ h a =>
      cases hv
      cases a with
      | none => exact .null
      | some a => exact h.plain a

theorem Agrees.passes (h : Agrees field test) (hf : Arranges f) (hv : field.2 = some v) :
    test.2 (f v) = .ok () := by
  cases h with
  | leftOut _ h a =>
      obtain ⟨a, -, rfl⟩ := Option.map_eq_some_iff.mp hv
      have hread := h.option hf (some a)
      rw [orNull] at hread
      simp only [Decode.check, hread]
      rfl
  | always _ h a =>
      cases hv
      simp only [Decode.check, h.reads hf]
      rfl
  | nullable _ h a =>
      cases hv
      simp only [Decode.check, h.option hf]
      rfl

/-! ## Records -/

theorem map_fst_eq_of_agrees (h : List.Forall₂ Agrees written checks) :
    written.map Prod.fst = checks.map Prod.fst := by
  induction h with
  | nil => rfl
  | cons h _ ih => rw [List.map_cons, List.map_cons, h.name_eq, ih]

/-- A field agrees with the test that is found under its name. -/
theorem exists_agrees (h : List.Forall₂ Agrees written checks)
    (hkeys : (checks.map Prod.fst).Nodup) (hfield : field ∈ written) :
    ∃ check, checks.lookup field.1 = some check ∧ Agrees field (field.1, check) := by
  induction h with
  | nil => cases hfield
  | @cons first test written checks h hrest ih =>
      obtain ⟨key, check⟩ := test
      obtain ⟨hnew, hkeys⟩ := List.nodup_cons.mp hkeys
      rcases List.mem_cons.mp hfield with rfl | hfield
      · have hname : field.1 = key := h.name_eq
        subst hname
        exact ⟨check, List.lookup_cons_self, h⟩
      · obtain ⟨other, hlookup, hagrees⟩ := ih hkeys hfield
        have hne : field.1 ≠ key := by
          rintro rfl
          rw [Value.lookup_eq_none hnew] at hlookup
          cases hlookup
        refine ⟨other, ?_, hagrees⟩
        rw [lookup_cons_ite, if_neg hne, hlookup]

theorem mem_membersOf {m : String × Value} :
    m ∈ membersOf written ↔ (m.1, some m.2) ∈ written := by
  rw [membersOf, List.mem_filterMap]
  constructor
  · rintro ⟨⟨name, v?⟩, hmem, hv⟩
    obtain ⟨v, rfl, rfl⟩ := Option.map_eq_some_iff.mp hv
    exact hmem
  · intro hmem
    exact ⟨_, hmem, rfl⟩

theorem sublist_membersOf (written : List (String × Option Value)) :
    ((membersOf written).map Prod.fst).Sublist (written.map Prod.fst) := by
  induction written with
  | nil => exact .slnil
  | cons field written ih =>
      obtain ⟨name, v?⟩ := field
      cases v? with
      | none => exact ih.cons name
      | some v => exact ih.cons_cons name

/-- Under the name of a field stands what was written for it. -/
theorem lookup_membersOf (hkeys : (written.map Prod.fst).Nodup) (hfield : field ∈ written) :
    (membersOf written).lookup field.1 = field.2 := by
  induction written with
  | nil => cases hfield
  | cons first written ih =>
      obtain ⟨name, v?⟩ := first
      obtain ⟨hnew, hrest⟩ := List.nodup_cons.mp hkeys
      have hnew' : name ∉ (membersOf written).map Prod.fst :=
        fun h => hnew ((sublist_membersOf written).subset h)
      rcases List.mem_cons.mp hfield with rfl | hmem
      · cases v? with
        | none => exact Value.lookup_eq_none hnew'
        | some v => exact List.lookup_cons_self
      · have hne : field.1 ≠ name :=
          fun h => hnew (List.mem_map.mpr ⟨field, hmem, h⟩)
        cases v? with
        | none => exact ih hrest hmem
        | some v =>
            show List.lookup field.1 ((name, v) :: membersOf written) = _
            rw [lookup_cons_ite, if_neg hne, ih hrest hmem]

theorem checkMembers_eq_ok {members : List (String × Value)}
    (h : ∀ m ∈ members, ∀ check, checks.lookup m.1 = some check → check m.2 = .ok ()) :
    Decode.checkMembers checks members = .ok () := by
  induction members with
  | nil => rfl
  | cons m members ih =>
      obtain ⟨name, v⟩ := m
      have hrest := ih fun m hm => h m (List.mem_cons_of_mem _ hm)
      rw [Decode.checkMembers]
      cases hcheck : checks.lookup name with
      | none => exact hrest
      | some check =>
          simp only [h _ List.mem_cons_self check hcheck]
          exact hrest

/-- What fields become when the members of their record are put in another order. -/
structure Placed (f : Value → Value) (written : List (String × Option Value))
    (checks : List (String × (Value → Decoded Unit)))
    (placed : List (String × Value)) : Prop where
  arranges : Arranges f
  checked : Decode.checkMembers checks placed = .ok ()
  found {field : String × Option Value} (h : field ∈ written) :
    placed.lookup field.1 = field.2.map f

/-- A record with fields that agree with the tests passes the tests, and all its fields are
found. -/
theorem exists_placed (hf : Arranges f) (h : List.Forall₂ Agrees written checks)
    (hkeys : (checks.map Prod.fst).Nodup) :
    ∃ placed, f (.obj (membersOf written)) = .obj placed ∧ Placed f written checks placed := by
  have hwritten : (written.map Prod.fst).Nodup := map_fst_eq_of_agrees h ▸ hkeys
  obtain ⟨placed, hplaced, hlookup, hmem⟩ := hf.obj (hwritten.sublist (sublist_membersOf written))
  refine ⟨placed, hplaced, hf, checkMembers_eq_ok fun m hm check hcheck => ?_, fun hfield => ?_⟩
  -- Wherever a member ended up, it is one that was written, and its test was made for it.
  · obtain ⟨v, hv, heq⟩ := hmem m hm
    obtain ⟨_, hfound, hagrees⟩ := exists_agrees h hkeys (mem_membersOf.mp hv)
    obtain rfl := Option.some.inj (hcheck.symm.trans hfound)
    rw [heq]
    exact hagrees.passes hf rfl
  · rw [hlookup, lookup_membersOf hwritten hfield]

theorem plain_membersOf (h : List.Forall₂ Agrees written checks)
    (hkeys : (checks.map Prod.fst).Nodup) : (Value.obj (membersOf written)).Plain := by
  refine .obj fun m hm => ?_
  obtain ⟨_, -, hagrees⟩ := exists_agrees h hkeys (mem_membersOf.mp hm)
  exact hagrees.plain rfl

namespace Placed

variable {placed : List (String × Value)} {name : String} {i : Nat}

/-- A record whose members pass the tests is put together from its fields. -/
theorem record (h : Placed f written checks placed) (type : String)
    (build : Decode.Fields → Decoded α) :
    Decode.record type checks build (.obj placed) = build (.ofMembers placed) := by
  rw [Decode.record]
  simp only [h.checked]
  rfl

theorem required (h : Placed f written checks placed) (hread : Faithful write read) {a : α}
    (i : Nat) (hfield : written[i]? = some (name, some (write a))) :
    (Decode.Fields.ofMembers placed).required i name read = .ok a := by
  have hfound := h.found (List.mem_of_getElem? hfield)
  rw [Decode.Fields.required, Decode.Fields.ofMembers]
  simp only [hfound]
  exact hread.reads h.arranges a

theorem optional (h : Placed f written checks placed) (hread : Faithful write read)
    {a : Option α} (i : Nat) (hfield : written[i]? = some (name, a.map write)) :
    (Decode.Fields.ofMembers placed).optional i name read = .ok a := by
  have hfound := h.found (List.mem_of_getElem? hfield)
  rw [Decode.Fields.optional, Decode.Fields.ofMembers]
  cases a with
  | none =>
      simp only [hfound]
      rfl
  | some a =>
      simp only [hfound]
      exact hread.option h.arranges (some a)

/-- A field that was written as `null` or with its data. -/
theorem nullable (h : Placed f written checks placed) (hread : Faithful write read)
    {a : Option α} (i : Nat) (hfield : written[i]? = some (name, some (orNull write a))) :
    (Decode.Fields.ofMembers placed).optional i name read = .ok a := by
  have hfound := h.found (List.mem_of_getElem? hfield)
  rw [Decode.Fields.optional, Decode.Fields.ofMembers]
  simp only [hfound]
  exact hread.option h.arranges a

end Placed

/-- A record that is written field by field is read back, if it can be put together from the
fields as they are found. -/
theorem Faithful.of_fields {fields : α → List (String × Option Value)}
    (hwrite : ∀ a, write a = .obj (membersOf (fields a)))
    (hagrees : ∀ a, List.Forall₂ Agrees (fields a) checks) (hkeys : (checks.map Prod.fst).Nodup)
    (hread : ∀ (f : Value → Value) (a : α) (placed : List (String × Value)),
      Placed f (fields a) checks placed → read (.obj placed) = .ok a) :
    Faithful write read where
  plain a := hwrite a ▸ plain_membersOf (hagrees a) hkeys
  present hf a := by
    obtain ⟨placed, hplaced, -⟩ := exists_placed hf (hagrees a) hkeys
    rw [hwrite, hplaced]
    exact Value.noConfusion
  reads hf a := by
    obtain ⟨placed, hplaced, h⟩ := exists_placed hf (hagrees a) hkeys
    rw [hwrite, hplaced, hread _ a placed h]

end ContainerLint
