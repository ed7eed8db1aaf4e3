import ContainerLint.Text.Property.Age
import ContainerLint.Text.Property.Binary
import ContainerLint.Text.Property.Category
import ContainerLint.Text.Property.GraphemeBreak
import ContainerLint.Text.Property.Script
import ContainerLint.Text.Property.ScriptExtension
import ContainerLint.Text.Property.SentenceBreak
import ContainerLint.Text.Property.WordBreak
import ContainerLint.Pattern.Syntax

/-!
# Properties in patterns

`PropertyQuery.members` finds the characters that a property in a pattern stands for. Names are
compared loosely: case, spaces, low lines and hyphens do not count, nor does `is` in front.
-/

namespace ContainerLint.Pattern

/-- Whether `c` counts in the name of a property. -/
def countsInName (c : Char) : Bool := c.toNat < 128 && c ≠ ' ' && c ≠ '_' && c ≠ '-'

/-- The name with small letters and without the characters that do not count. -/
def foldedName (name : List Char) : List Char := (name.filter countsInName).map Char.toLower

/-- The name by which a property is found. What is left of `isc` is that name itself. -/
def propertyKey (name : List Char) : String :=
  match name with
  | a :: b :: rest =>
    if a.toLower = 'i' ∧ b.toLower = 's' then
      if foldedName rest = ['c'] then "isc" else String.ofList (foldedName rest)
    else String.ofList (foldedName name)
  | _ => String.ofList (foldedName name)

/-- The characters of a general category, or of one of the groups that go beyond categories. -/
def categoryMembers (key : String) : Option CharSet :=
  if key = "any" then some .all
  else if key = "assigned" then
    (CharProperty.named "cn" CharProperty.categories).map fun p => p.members.complement
  else if key = "ascii" then some ⟨[(0, 127)]⟩
  else (CharProperty.named key CharProperty.categories).map CharProperty.members

/-- The characters that existed in a version of the standard. -/
def ageMembers (key : String) : Option CharSet :=
  match CharProperty.ages.findIdx? fun p => p.names.contains key with
  | some i =>
    some ((CharProperty.ages.take (i + 1)).foldl (fun s p => s.union p.members) .empty)
  | none => none

/-- The characters of a property that is asked for by its value alone. -/
def namedMembers (key : String) : Option CharSet :=
  match CharProperty.named key CharProperty.binaries with
  | some p => some p.members
  | none =>
    match categoryMembers key with
    | some s => some s
    | none => (CharProperty.named key CharProperty.scripts).map CharProperty.members

/-- The characters for which the property `key` has the value `value`. -/
def valuedMembers (key value : String) : Option CharSet :=
  let find (properties : List CharProperty) : Option CharSet :=
    (CharProperty.named value properties).map CharProperty.members
  if key = "gc" ∨ key = "generalcategory" then categoryMembers value
  else if key = "sc" ∨ key = "script" then find CharProperty.scripts
  else if key = "scx" ∨ key = "scriptextensions" then find CharProperty.scriptExtensions
  else if key = "age" then ageMembers value
  else if key = "gcb" ∨ key = "graphemeclusterbreak" then find CharProperty.graphemeBreaks
  else if key = "wb" ∨ key = "wordbreak" then find CharProperty.wordBreaks
  else if key = "sb" ∨ key = "sentencebreak" then find CharProperty.sentenceBreaks
  else none

/-- The characters that a query stands for, if there is such a property. -/
def PropertyQuery.members : PropertyQuery → Option CharSet
  | .letter c => namedMembers (propertyKey [c])
  | .named name => namedMembers (propertyKey name)
  | .valued name value => valuedMembers (propertyKey name) (propertyKey value)

end ContainerLint.Pattern
