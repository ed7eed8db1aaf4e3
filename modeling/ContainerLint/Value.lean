import ContainerLint.Decimal.Shortest
import ContainerLint.Text.Quoted

/-!
# Data

A `Value` is a piece of structured data, as a settings file or a message holds it. Data that was
read has the members of its objects sorted by key, no key twice; data that is written keeps the
order in which it was put together. A floating-point number is kept as its bits.
-/

namespace ContainerLint

/-- Structured data. -/
inductive Value where
  | null
  | bool (b : Bool)
  | int (n : Int)
  | float (bits : UInt64)
  | str (s : String)
  | arr (items : List Value)
  | obj (members : List (String × Value))
deriving Repr, Inhabited

namespace Value

/-- Puts a member in its place among sorted members. A member of the same key is replaced. -/
def insertMember {α : Type} (key : String) (value : α) :
    List (String × α) → List (String × α)
  | [] => [(key, value)]
  | (k, v) :: rest =>
    if key < k then (key, value) :: (k, v) :: rest
    else if key = k then (key, value) :: rest
    else (k, v) :: insertMember key value rest

/-- The object with the given members, of which the last one of each key counts. -/
def ofMembers (members : List (String × Value)) : Value :=
  .obj (members.foldl (fun sorted m => insertMember m.1 m.2 sorted) [])

/-- The member of an object. -/
def member? (key : String) : Value → Option Value
  | .obj members => members.lookup key
  | _ => none

/-- What kind of data a value is, as faults tell it. -/
def described : Value → String
  | .null => "null"
  | .bool b => "boolean `" ++ (if b then "true" else "false") ++ "`"
  | .int n => "integer `" ++ toString n ++ "`"
  | .float bits => "floating point `" ++ (Decimal.ofBits bits).text ++ "`"
  | .str s => "string " ++ quoted s
  | .arr _ => "sequence"
  | .obj _ => "map"

end Value

end ContainerLint
