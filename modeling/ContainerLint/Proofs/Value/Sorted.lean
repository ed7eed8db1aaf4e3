import ContainerLint.Value

/-!
# Data with sorted members

Data that was read has its members sorted by key. `Value.sorted` brings data that is to be written
into this form. In an object in which no key comes twice the same is found under each key as
before, and no member is made up (`sorted_obj`).
-/

namespace ContainerLint

/-! ## Putting members in their place -/

variable {α : Type} {key : String} {value : α} {members placed : List (String × α)}

/-- A look-up asks the first member and then the others. -/
theorem lookup_cons_ite (key : String) (value : α) (rest : List (String × α)) (other : String) :
    List.lookup other ((key, value) :: rest) =
      if other = key then some value else rest.lookup other := by
  by_cases h : other = key
  · rw [if_pos h, h, List.lookup_cons_self]
  · rw [if_neg h, List.lookup_cons, beq_eq_false_iff_ne.mpr h]

namespace Value

theorem lookup_eq_none (h : key ∉ members.map Prod.fst) : members.lookup key = none := by
  rw [List.lookup_eq_none_iff]
  intro m hm
  exact bne_iff_ne.mpr fun heq => h (List.mem_map.mpr ⟨m, hm, heq.symm⟩)

theorem lookup_insertMember (other : String) :
    (insertMember key value placed).lookup other =
      if other = key then some value else placed.lookup other := by
  induction placed with
  | nil => exact lookup_cons_ite ..
  | cons m rest ih =>
      obtain ⟨k, v⟩ := m
      rw [insertMember]
      split
      · exact lookup_cons_ite ..
      · split
        · rename_i heq
          subst heq
          simp only [lookup_cons_ite]
          split <;> rfl
        · rename_i hne
          rw [lookup_cons_ite, lookup_cons_ite, ih]
          by_cases h : other = k
          · rw [if_pos h, if_pos h, if_neg (h ▸ Ne.symm hne)]
          · rw [if_neg h, if_neg h]

theorem mem_insertMember {m : String × α} (h : m ∈ insertMember key value placed) :
    m = (key, value) ∨ m ∈ placed := by
  induction placed with
  | nil => exact .inl (List.mem_singleton.mp h)
  | cons first rest ih =>
      obtain ⟨k, v⟩ := first
      rw [insertMember] at h
      split at h
      · exact List.mem_cons.mp h
      · split at h
        · exact (List.mem_cons.mp h).imp_right (List.mem_cons_of_mem _)
        · rcases List.mem_cons.mp h with rfl | h
          · exact .inr List.mem_cons_self
          · exact (ih h).imp_right (List.mem_cons_of_mem _)

/-- Members put in their places one after another. -/
def insertMembers (placed members : List (String × α)) : List (String × α) :=
  members.foldl (fun placed m => insertMember m.1 m.2 placed) placed

theorem ofMembers_eq (members : List (String × Value)) :
    ofMembers members = .obj (insertMembers [] members) := rfl

/-- If no key comes twice, every member is found, and what was there under other keys. -/
theorem lookup_insertMembers (hkeys : (members.map Prod.fst).Nodup) (other : String) :
    (insertMembers placed members).lookup other =
      (members.lookup other).or (placed.lookup other) := by
  induction members generalizing placed with
  | nil => rfl
  | cons m rest ih =>
      obtain ⟨key, value⟩ := m
      obtain ⟨hnew, hkeys⟩ := List.nodup_cons.mp hkeys
      show (insertMembers (insertMember key value placed) rest).lookup other = _
      rw [ih hkeys, lookup_insertMember, lookup_cons_ite]
      by_cases h : other = key
      · rw [h, lookup_eq_none hnew, if_pos rfl, if_pos rfl]
        rfl
      · rw [if_neg h, if_neg h]

theorem mem_insertMembers {m : String × α} (h : m ∈ insertMembers placed members) :
    m ∈ members ∨ m ∈ placed := by
  induction members generalizing placed with
  | nil => exact .inr h
  | cons first rest ih =>
      rcases ih h with h | h
      · exact .inl (List.mem_cons_of_mem _ h)
      · rcases mem_insertMember h with rfl | h
        · exact .inl List.mem_cons_self
        · exact .inr h

/-! ## Sorting all members -/

mutual

/-- The data with the members of all objects in it sorted, of which the last one of each key
counts. -/
def sorted : Value → Value
  | .arr items => .arr (sortedItems items)
  | .obj members => .ofMembers (sortedMembers members)
  | v => v

/-- Sorts the members in each of several items. -/
def sortedItems : List Value → List Value
  | [] => []
  | v :: rest => v.sorted :: sortedItems rest

/-- Sorts the members in what stands under each of several keys. -/
def sortedMembers : List (String × Value) → List (String × Value)
  | [] => []
  | (key, v) :: rest => (key, v.sorted) :: sortedMembers rest

end

theorem sortedItems_eq_map (items : List Value) : sortedItems items = items.map sorted := by
  induction items with
  | nil => rfl
  | cons v rest ih => rw [sortedItems, ih, List.map_cons]

theorem sortedMembers_eq_map (members : List (String × Value)) :
    sortedMembers members = members.map fun m => (m.1, m.2.sorted) := by
  induction members with
  | nil => rfl
  | cons m rest ih => rw [sortedMembers, ih, List.map_cons]

theorem lookup_sortedMembers (members : List (String × Value)) (key : String) :
    (sortedMembers members).lookup key = (members.lookup key).map sorted := by
  induction members with
  | nil => rfl
  | cons m rest ih =>
      obtain ⟨k, v⟩ := m
      rw [sortedMembers, lookup_cons_ite, lookup_cons_ite, ih]
      split <;> rfl

/-- An object in which no key comes twice has the same keys when it is sorted, with the same data
under them. -/
theorem sorted_obj {members : List (String × Value)} (hkeys : (members.map Prod.fst).Nodup) :
    ∃ placed, (obj members).sorted = obj placed ∧
      (∀ key, placed.lookup key = (members.lookup key).map sorted) ∧
      ∀ m ∈ placed, ∃ v, (m.1, v) ∈ members ∧ m.2 = v.sorted := by
  refine ⟨insertMembers [] (sortedMembers members), by rw [sorted, ofMembers_eq], ?_, ?_⟩
  · intro key
    have hsorted : ((sortedMembers members).map Prod.fst).Nodup := by
      rw [sortedMembers_eq_map, List.map_map]
      exact hkeys
    rw [lookup_insertMembers hsorted key, lookup_sortedMembers, List.lookup_nil, Option.or_none]
  · intro m hm
    rcases mem_insertMembers hm with hm | hm
    · rw [sortedMembers_eq_map] at hm
      obtain ⟨⟨key, v⟩, hmem, rfl⟩ := List.mem_map.mp hm
      exact ⟨v, hmem, rfl⟩
    · cases hm

end Value

end ContainerLint
