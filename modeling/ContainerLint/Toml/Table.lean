import ContainerLint.Value

/-!
# Tables that are being filled

A settings file in TOML fills a tree of tables line by line. A table is made by a header of its
own, or by a longer header or a dotted key that passes through it, and its `Origin` decides what
may still be added: no table is headed twice, and dotted keys add only to tables that dotted keys
made.
-/

namespace ContainerLint.Toml

/-- How a table came to be. -/
inductive Origin
  | header
  | passed
  | dotted
deriving DecidableEq, Repr

/-- What stands under a key: a finished value, a table, or a list of tables with headers. The
entries of a table come in order, as do the tables of a list, the latest first. -/
inductive Entry
  | value (v : Value)
  | table (origin : Origin) (entries : List (String × Entry))
  | tables (latest : List (String × Entry)) (earlier : List (List (String × Entry)))
deriving Inhabited

/-- The entries of a table. -/
abbrev Entries := List (String × Entry)

namespace Entries

/-- Replaces the entry of a key, or adds it at the end. -/
def set (key : String) (e : Entry) : Entries → Entries
  | [] => [(key, e)]
  | (k, old) :: rest => if k = key then (k, e) :: rest else (k, old) :: set key e rest

/-- Adds an entry for a key that is not there yet. -/
def add (key : String) (e : Entry) (entries : Entries) : Option Entries :=
  match entries.lookup key with
  | some _ => none
  | none => some (set key e entries)

/-- Changes the table that a list of keys leads to, making tables on the way. `dotted` says that
the keys are a dotted key, which cannot enter a table that has a header. -/
def descend (dotted : Bool) (change : Origin → Entries → Option Entries) :
    List String → Origin → Entries → Option Entries
  | [], origin, entries => change origin entries
  | key :: keys, _, entries =>
    match entries.lookup key with
    | none => do
      let origin := if dotted then Origin.dotted else .passed
      let inner ← descend dotted change keys origin []
      some (set key (.table origin inner) entries)
    | some (.value _) => none
    | some (.tables latest earlier) => do
      let inner ← descend dotted change keys .header latest
      some (set key (.tables inner earlier) entries)
    | some (.table origin inner) =>
      if dotted && origin = .header then none
      else do
        let inner ← descend dotted change keys origin inner
        some (set key (.table origin inner) entries)

/-- Sets a value by a key that may be dotted, in a table with a header. -/
def assign (keys : List String) (last : String) (v : Value) (entries : Entries) :
    Option Entries :=
  descend true
    (fun origin inner =>
      if keys.isEmpty || origin = .dotted then add last (.value v) inner else none)
    keys .header entries

/-- Notes the header of a table. -/
def head (keys : List String) (last : String) (entries : Entries) : Option Entries :=
  descend false
    (fun _ inner =>
      match inner.lookup last with
      | none => some (set last (.table .header []) inner)
      | some (.table .passed under) => some (set last (.table .header under) inner)
      | some _ => none)
    keys .header entries

/-- Notes the header of one more table of a list. -/
def headMore (keys : List String) (last : String) (entries : Entries) : Option Entries :=
  descend false
    (fun _ inner =>
      match inner.lookup last with
      | none => some (set last (.tables [] []) inner)
      | some (.tables latest earlier) => some (set last (.tables [] (latest :: earlier)) inner)
      | some _ => none)
    keys .header entries

/-- Changes the table at the end of a header. -/
def within (change : Entries → Option Entries) (header : List String) (entries : Entries) :
    Option Entries :=
  descend false (fun _ inner => change inner) header .header entries

end Entries

mutual

/-- An entry as data. -/
def Entry.toValue : Entry → Value
  | .value v => v
  | .table _ entries => .ofMembers (memberValues entries)
  | .tables latest earlier =>
    .arr ((.ofMembers (memberValues latest)) :: tableValues earlier).reverse

/-- The entries of a table as data. -/
def memberValues : List (String × Entry) → List (String × Value)
  | [] => []
  | (key, e) :: rest => (key, e.toValue) :: memberValues rest

/-- A list of tables as data. -/
def tableValues : List (List (String × Entry)) → List Value
  | [] => []
  | entries :: rest => .ofMembers (memberValues entries) :: tableValues rest

end

end ContainerLint.Toml
