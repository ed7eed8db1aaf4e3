import ContainerLint.Proofs.Value.Sorted
import ContainerLint.Server.State

/-!
# Looking up open documents

What putting in and dropping a document changes for a look-up by name, and what it leaves alone.
-/

namespace ContainerLint.Server.Documents

/-- A document that was put in is found under its name, and every other name finds what it found
before. -/
theorem lookup_set (docs : Documents) (uri : String) (d : Document) (name : String) :
    (docs.set uri d).lookup name = if name = uri then some d else docs.lookup name := by
  induction docs with
  | nil => exact lookup_cons_ite uri d [] name
  | cons entry rest ih =>
      obtain ⟨other, old⟩ := entry
      by_cases hother : other = uri
      · subst hother
        by_cases h : name = other <;> simp [set, lookup_cons_ite, h]
      · by_cases h : name = other
        · subst h
          simp [set, hother]
        · simp [set, lookup_cons_ite, hother, h, ih]

/-- A name that was dropped finds nothing, and every other name finds what it found before. -/
theorem lookup_erase (docs : Documents) (uri name : String) :
    (docs.erase uri).lookup name = if name = uri then none else docs.lookup name := by
  induction docs with
  | nil => simp [erase]
  | cons entry rest ih =>
      obtain ⟨other, old⟩ := entry
      simp only [erase, List.filter_cons, ne_eq, decide_not] at ih ⊢
      by_cases hother : other = uri
      · subst hother
        by_cases h : name = other
        · simpa [h] using ih
        · simpa [lookup_cons_ite, h] using ih
      · by_cases h : name = other
        · subst h
          simp [hother]
        · simp [lookup_cons_ite, hother, h, ih]

/-- The names of the open documents are those that find a document. -/
theorem mem_names (docs : Documents) (name : String) :
    name ∈ docs.map Prod.fst ↔ ∃ d, docs.lookup name = some d := by
  induction docs with
  | nil => simp
  | cons entry rest ih =>
      obtain ⟨other, old⟩ := entry
      by_cases h : name = other
      · simp [h]
      · simp only [List.map_cons, List.mem_cons, h, false_or, lookup_cons_ite, if_false, ih]

end ContainerLint.Server.Documents
