import ContainerLint.Value

/-!
# Reading records out of data

Records are read from objects, by the names of their fields, or from arrays, by the order of
their fields. `Mismatch` lists what can be wrong. In an object the members are looked at in the
order of their keys before any field is missed; unknown members do not matter.
-/

namespace ContainerLint

/-- Why data is not what was expected. -/
inductive Mismatch
  | invalidType (found : String) (expected : String)
  | invalidValue (found : String) (expected : String)
  | invalidLength (length : Nat) (expected : String)
  | missingField (name : String)
  | duplicateField (name : String)
  | unknownVariant (name : String) (known : List String)
  | noVariant (type : String)
deriving DecidableEq, Repr

namespace Mismatch

/-- A name between back quotes. -/
def ticked (name : String) : String := "`" ++ name ++ "`"

/-- What is said about a mismatch. -/
def message : Mismatch → String
  | .invalidType found expected => "invalid type: " ++ found ++ ", expected " ++ expected
  | .invalidValue found expected => "invalid value: " ++ found ++ ", expected " ++ expected
  | .invalidLength length expected =>
    "invalid length " ++ toString length ++ ", expected " ++ expected
  | .missingField name => "missing field " ++ ticked name
  | .duplicateField name => "duplicate field " ++ ticked name
  | .unknownVariant name known =>
    "unknown variant " ++ ticked name ++ ", expected one of " ++
      String.intercalate ", " (known.map ticked)
  | .noVariant type => "data did not match any variant of untagged enum " ++ type

end Mismatch

/-- The outcome of reading data. -/
abbrev Decoded (α : Type) := Except Mismatch α

namespace Decode

/-- The fault of data that should have been something else. -/
def wrongType {α : Type} (v : Value) (expected : String) : Decoded α :=
  .error (.invalidType v.described expected)

/-- Reads a text. -/
def text : Value → Decoded String
  | .str s => .ok s
  | v => wrongType v "a string"

/-- Reads the path of a file. -/
def path : Value → Decoded String
  | .str s => .ok s
  | v => wrongType v "path string"

/-- Reads a truth value. -/
def bool : Value → Decoded Bool
  | .bool b => .ok b
  | v => wrongType v "a boolean"

/-- Reads a number from 0 up to, but not including, `bound`. -/
def natBelow (bound : Nat) (expected : String) : Value → Decoded Nat
  | .int n =>
    if 0 ≤ n ∧ n < bound then .ok n.toNat
    else .error (.invalidValue (Value.int n).described expected)
  | v => wrongType v expected

/-- Reads a number of 32 bits. -/
def word32 (v : Value) : Decoded UInt32 := (natBelow 4294967296 "u32" v).map UInt32.ofNat

/-- Reads the number of a group. -/
def index (v : Value) : Decoded UInt64 :=
  (natBelow 18446744073709551616 "usize" v).map UInt64.ofNat

/-- Reads what may be absent, which `null` says. -/
def option {α : Type} (read : Value → Decoded α) : Value → Decoded (Option α)
  | .null => .ok none
  | v => (read v).map some

/-- Reads an array item by item. -/
def list {α : Type} (read : Value → Decoded α) : Value → Decoded (List α)
  | .arr items => items.mapM read
  | v => wrongType v "a sequence"

/-- Where the fields of a record come from: the value of a field, by its position and its name,
and the fault when it is missing. -/
structure Fields where
  value? : Nat → String → Option Value
  missing : Nat → String → Mismatch

/-- Fields that are members of an object. -/
def Fields.ofMembers (members : List (String × Value)) : Fields :=
  ⟨fun _ name => members.lookup name, fun _ name => .missingField name⟩

/-- Fields that are items of an array, for a record of `count` fields. -/
def Fields.ofItems (type : String) (count : Nat) (items : List Value) : Fields :=
  ⟨fun i _ => items[i]?, fun i _ =>
    .invalidLength i ("struct " ++ type ++ " with " ++ toString count ++ " elements")⟩

/-- Reads a field that must be there. -/
def Fields.required {α : Type} (f : Fields) (i : Nat) (name : String)
    (read : Value → Decoded α) : Decoded α :=
  match f.value? i name with
  | some v => read v
  | none => .error (f.missing i name)

/-- Reads a field that may be left out. -/
def Fields.optional {α : Type} (f : Fields) (i : Nat) (name : String)
    (read : Value → Decoded α) : Decoded (Option α) :=
  match f.value? i name with
  | some v => option read v
  | none => .ok none

/-- Whether a value can be read, and if not, why. -/
def check {α : Type} (read : Value → Decoded α) (v : Value) : Decoded Unit :=
  (read v).map fun _ => ()

/-- Looks at the members of an object in order, each by the check of its name. -/
def checkMembers (checks : List (String × (Value → Decoded Unit))) :
    List (String × Value) → Decoded Unit
  | [] => .ok ()
  | (key, v) :: rest => do
    match checks.lookup key with
    | some test => test v
    | none => .ok ()
    checkMembers checks rest

/-- Reads a record. `checks` names its fields in order, `build` puts it together. -/
def record {α : Type} (type : String) (checks : List (String × (Value → Decoded Unit)))
    (build : Fields → Decoded α) : Value → Decoded α
  | .obj members => do
    checkMembers checks members
    build (.ofMembers members)
  | .arr items => do
    let r ← build (.ofItems type checks.length items)
    if checks.length < items.length then
      .error (.invalidLength items.length "fewer elements in array")
    else .ok r
  | v => wrongType v ("struct " ++ type)

end Decode

end ContainerLint
