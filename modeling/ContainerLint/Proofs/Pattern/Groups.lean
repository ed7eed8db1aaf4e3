import ContainerLint.Pattern.Match
import ContainerLint.Proofs.Pattern.Ways
import Mathlib.Tactic.NthRewrite
import Mathlib.Tactic.SplitIfs

/-!
# The groups of a pattern

The groups of a written pattern are numbered from one on (`Ast.groups_pos_of_read`), since reading
counts on before it opens one. Giving the pattern its meaning may lose groups, where a part is
taken no time at all, but it adds none (`Ast.groups_meaning`). So the number of the whole match is
left for the whole match (`Pattern.exists_node_of_compile`).
-/

namespace ContainerLint

/-- Two steps that may fail went well. -/
theorem bind_eq_ok {ε α β : Type} {x : Except ε α} {f : α → Except ε β} {b : β} :
    x >>= f = .ok b ↔ ∃ a, x = .ok a ∧ f a = .ok b := by
  cases x with
  | error e => exact iff_of_false (fun h => by cases h) fun ⟨_, h, _⟩ => by cases h
  | ok a => exact ⟨fun h => ⟨a, rfl, h⟩, fun ⟨_, h, hf⟩ => by cases h; exact hf⟩

namespace Pattern

/-- The numbers of the groups in a written pattern. -/
def Ast.groups : Ast → List Nat
  | .rep sub _ _ => sub.groups
  | .capture index sub => index :: sub.groups
  | .group _ sub => sub.groups
  | .cat a b => a.groups ++ b.groups
  | .alt a b => a.groups ++ b.groups
  | _ => []

namespace Node

/-! ## Building nodes -/

@[simp] theorem groups_catParts (n : Node) : n.catParts.flatMap groups = n.groups := by
  induction n with
  | cat a b iha ihb => simp [catParts, groups, ihb]
  | empty | literal | set | look | rep | capture | alt => simp [catParts, groups]

@[simp] theorem groups_altParts (n : Node) : n.altParts.flatMap groups = n.groups := by
  induction n with
  | alt a b iha ihb => simp [altParts, groups, ihb]
  | empty | literal | set | look | rep | capture | cat => simp [altParts, groups]

theorem groups_consPart (part : Node) (parts : List Node) :
    (consPart part parts).flatMap groups = part.groups ++ parts.flatMap groups := by
  fun_cases consPart <;> simp [groups]

@[simp] theorem groups_ofParts (parts : List Node) :
    (ofParts parts).groups = parts.flatMap groups := by
  fun_induction ofParts with
  | case1 => rfl
  | case2 a => simp
  | case3 a rest hrest ih => simp [groups, ih]

@[simp] theorem groups_sequence (nodes : List Node) :
    (sequence nodes).groups = nodes.flatMap groups := by
  have hparts : ∀ parts : List Node,
      (parts.foldr consPart []).flatMap groups = parts.flatMap groups := by
    intro parts
    induction parts with
    | nil => rfl
    | cons part parts ih => rw [List.foldr_cons, groups_consPart, ih, List.flatMap_cons]
  rw [sequence, groups_ofParts, hparts, List.flatMap_assoc]
  simp

@[simp] theorem groups_ofSet (chars : CharSet) : (ofSet chars).groups = [] := by
  rw [ofSet]
  split <;> rfl

@[simp] theorem groups_ofAlternatives (branches : List Node) :
    (ofAlternatives branches).groups = branches.flatMap groups := by
  fun_induction ofAlternatives with
  | case1 => rfl
  | case2 a => simp
  | case3 a rest hrest ih => simp [groups, ih]

theorem groups_plainBranches (branches : List Node) :
    (plainBranches branches).groups ⊆ branches.flatMap groups := by
  fun_cases plainBranches <;> simp

/-- What lists share at their start comes first in the first of them. -/
theorem commonStart_append (as bs : List Node) : ∃ rest, commonStart as bs ++ rest = as := by
  fun_induction commonStart with
  | case1 a as bs ih =>
      obtain ⟨rest, hrest⟩ := ih
      exact ⟨rest, by rw [List.cons_append, hrest]⟩
  | case2 a as b bs hne => exact ⟨a :: as, rfl⟩
  | case3 as bs => exact ⟨as, rfl⟩

theorem sharedStart_append (parts : List Node) (lists : List (List Node)) :
    ∃ rest, sharedStart (parts :: lists) ++ rest = parts := by
  rw [sharedStart]
  induction lists generalizing parts with
  | nil => exact ⟨[], List.append_nil _⟩
  | cons other lists ih =>
      obtain ⟨rest, hrest⟩ := ih (commonStart parts other)
      obtain ⟨more, hmore⟩ := commonStart_append parts other
      exact ⟨rest ++ more, by rw [List.foldl_cons, ← List.append_assoc, hrest, hmore]⟩

theorem groups_of_sequenceParts? {n : Node} {parts : List Node}
    (h : n.sequenceParts? = some parts) : parts.flatMap groups = n.groups := by
  cases n with
  | cat a b =>
      cases h
      simp [groups]
  | empty | literal | set | look | rep | capture | alt => cases h

/-- Branches have the groups of the sequences that they are. -/
theorem groups_of_mapM_sequenceParts? {branches : List Node} {lists : List (List Node)}
    (h : branches.mapM sequenceParts? = some lists) :
    (lists.flatMap fun parts => parts.flatMap groups) = branches.flatMap groups := by
  induction branches generalizing lists with
  | nil =>
      cases h
      rfl
  | cons n branches ih =>
      simp only [List.mapM_cons, bind, Option.bind_eq_some_iff, pure, Option.some.injEq] at h
      obtain ⟨parts, hparts, rest, hrest, rfl⟩ := h
      rw [List.flatMap_cons, List.flatMap_cons, groups_of_sequenceParts? hparts, ih hrest]

theorem groups_branchesFrom (fuel : Nat) (branches : List Node) :
    (branchesFrom fuel branches).groups ⊆ branches.flatMap groups := by
  have hflat : ∀ branches : List Node,
      (branches.flatMap altParts).flatMap groups = branches.flatMap groups := by
    intro branches
    rw [List.flatMap_assoc]
    simp
  have hplain : ∀ branches : List Node,
      (plainBranches (branches.flatMap altParts)).groups ⊆ branches.flatMap groups :=
    fun branches => hflat branches ▸ groups_plainBranches _
  induction fuel generalizing branches with
  | zero => exact groups_plainBranches branches
  | succ fuel ih =>
      simp only [branchesFrom]
      split
      · rename_i lists _ hlists
        split
        · exact hplain branches
        · rename_i shared hshared
          rw [groups_sequence, List.flatMap_append, List.flatMap_singleton, ← hflat branches,
            ← groups_of_mapM_sequenceParts? hlists]
          refine List.append_subset.mpr ⟨?_, List.Subset.trans (ih _) ?_⟩
          · -- What is shared is there in the first branch.
            cases lists with
            | nil => exact absurd rfl hshared
            | cons parts lists =>
                obtain ⟨rest, hrest⟩ := sharedStart_append parts lists
                rw [List.flatMap_cons]
                nth_rewrite 2 [← hrest]
                simp
          · intro g hg
            simp only [List.flatMap_map, groups_ofParts, List.mem_flatMap] at hg ⊢
            obtain ⟨parts, hparts, n, hn, hg⟩ := hg
            exact ⟨parts, hparts, n, List.mem_of_mem_drop hn, hg⟩
      · exact hplain branches

theorem groups_ofBranches (branches : List Node) :
    (ofBranches branches).groups ⊆ branches.flatMap groups := by
  fun_cases ofBranches with
  | case1 n => simp
  | case2 branches => exact groups_branchesFrom _ _

theorem groups_repeated (sub : Node) (count : Count) (greedy : Bool) :
    (repeated sub count greedy).groups ⊆ sub.groups := by
  simp only [repeated]
  split_ifs <;> simp [groups]

end Node

/-! ## The meaning of a pattern -/

theorem groups_of_map_ofSet {chars : Except SyntaxFault CharSet} {n : Node}
    (h : chars.map Node.ofSet = .ok n) : n.groups = [] := by
  cases chars with
  | error fault => cases h
  | ok chars =>
      cases h
      exact Node.groups_ofSet chars

theorem Atom.groups_meaning {a : Atom} {f : Flags} {n : Node} (h : a.meaning f = .ok n) :
    n.groups = [] := by
  cases a with
  | char c raw =>
      simp only [meaning, charNode] at h
      split at h
      · cases h
      · cases h
        split <;> simp [Node.groups]
  | dot =>
      simp only [meaning] at h
      split at h <;> cases h
      rfl
  | assertion a =>
      cases h
      rfl
  | shorthand | property => exact groups_of_map_ofSet h

namespace Ast

theorem groups_branches {a : Ast} {f g : Flags} {ns : List Node}
    (h : a.branches f = .ok (ns, g)) : ns.flatMap Node.groups ⊆ a.groups := by
  induction a generalizing f g ns with
  | empty | flags changes =>
      cases h
      simp [Node.groups]
  | atom a =>
      obtain ⟨n, hn, h⟩ := bind_eq_ok.mp h
      cases h
      simp [a.groups_meaning hn]
  | set negated inner =>
      obtain ⟨s, -, h⟩ := bind_eq_ok.mp h
      obtain ⟨chars, -, h⟩ := bind_eq_ok.mp h
      cases h
      simp
  | rep sub count greedy ih =>
      obtain ⟨⟨ms, f'⟩, hsub, h⟩ := bind_eq_ok.mp h
      cases h
      rw [List.flatMap_singleton]
      exact List.Subset.trans (Node.groups_repeated _ _ _)
        (List.Subset.trans (Node.groups_ofBranches ms) (ih hsub))
  | capture index sub ih =>
      obtain ⟨⟨ms, f'⟩, hsub, h⟩ := bind_eq_ok.mp h
      cases h
      rw [List.flatMap_singleton]
      exact List.cons_subset_cons index (List.Subset.trans (Node.groups_ofBranches ms) (ih hsub))
  | group changes sub ih =>
      obtain ⟨⟨ms, f'⟩, hsub, h⟩ := bind_eq_ok.mp h
      cases h
      rw [List.flatMap_singleton]
      exact List.Subset.trans (Node.groups_ofBranches ms) (ih hsub)
  | cat a b iha ihb =>
      obtain ⟨⟨as, f'⟩, ha, h⟩ := bind_eq_ok.mp h
      obtain ⟨⟨bs, g'⟩, hb, h⟩ := bind_eq_ok.mp h
      cases h
      rw [List.flatMap_singleton, Node.groups_sequence, List.flatMap_cons, List.flatMap_singleton]
      have hfirst := List.Subset.trans (Node.groups_ofBranches as) (iha ha)
      have hsecond := List.Subset.trans (Node.groups_ofBranches bs) (ihb hb)
      exact List.append_subset.mpr ⟨List.subset_append_of_subset_left _ hfirst,
        List.subset_append_of_subset_right _ hsecond⟩
  | alt a b iha ihb =>
      obtain ⟨⟨as, f'⟩, ha, h⟩ := bind_eq_ok.mp h
      obtain ⟨⟨bs, g'⟩, hb, h⟩ := bind_eq_ok.mp h
      cases h
      rw [List.flatMap_append]
      exact List.append_subset.mpr ⟨List.subset_append_of_subset_left _ (iha ha),
        List.subset_append_of_subset_right _ (ihb hb)⟩

/-- What a pattern means has no groups but those of the pattern. -/
theorem groups_meaning {a : Ast} {n : Node} (h : a.meaning = .ok n) : n.groups ⊆ a.groups := by
  obtain ⟨⟨ns, f⟩, hns, h⟩ := bind_eq_ok.mp h
  cases h
  exact List.Subset.trans (Node.groups_ofBranches ns) (groups_branches hns)

theorem groups_ofSequence (parts : List Ast) :
    (ofSequence parts).groups = parts.flatMap groups := by
  fun_induction ofSequence with
  | case1 => rfl
  | case2 a => simp
  | case3 a rest hrest ih => simp [groups, ih]

theorem groups_ofBranches (branches : List Ast) :
    (ofBranches branches).groups = branches.flatMap groups := by
  fun_induction ofBranches with
  | case1 => rfl
  | case2 a => simp
  | case3 a rest hrest ih => simp [groups, ih]

end Ast

/-! ## Reading -/

namespace Reader

variable {s t : State} {part : Ast} {text rest : List Char}

/-- The groups that were read at one level are numbered from one on. -/
def Level.Numbered (l : Level) : Prop := ∀ a ∈ l.parts ++ l.branches, ∀ g ∈ a.groups, 0 < g

/-- A group that captures has a number from one on. -/
def Opening.Numbered : Opening → Prop
  | .capture index => 0 < index
  | .plain _ => True

/-- The groups that were read at all levels, and those that are open, are numbered from one on. -/
structure State.Numbered (s : State) : Prop where
  level : s.level.Numbered
  outer : ∀ o ∈ s.outer, o.level.Numbered ∧ o.opening.Numbered

theorem Level.Numbered.push {l : Level} (h : l.Numbered) (hpart : ∀ g ∈ part.groups, 0 < g) :
    Level.Numbered { l with parts := part :: l.parts } :=
  List.forall_mem_cons.mpr ⟨hpart, h⟩

theorem Level.Numbered.sequence {l : Level} (h : l.Numbered) :
    ∀ g ∈ (Ast.ofSequence l.parts.reverse).groups, 0 < g := by
  intro g hg
  rw [Ast.groups_ofSequence] at hg
  obtain ⟨a, ha, hg⟩ := List.mem_flatMap.mp hg
  exact h a (List.mem_append_left _ (List.mem_reverse.mp ha)) g hg

theorem Level.Numbered.close {l : Level} (h : l.Numbered) : ∀ g ∈ l.close.groups, 0 < g := by
  intro g hg
  rw [Level.close, Ast.groups_ofBranches] at hg
  obtain ⟨a, ha, hg⟩ := List.mem_flatMap.mp hg
  rcases List.mem_cons.mp (List.mem_reverse.mp ha) with rfl | ha
  · exact h.sequence g hg
  · exact h a (List.mem_append_right _ ha) g hg

namespace State.Numbered

/-- Only the groups that were read and those that are open count. -/
theorem of_eq (h : s.Numbered) (hlevel : t.level = s.level) (houter : t.outer = s.outer) :
    t.Numbered :=
  ⟨hlevel ▸ h.level, houter ▸ h.outer⟩

theorem push (h : s.Numbered) (hpart : ∀ g ∈ part.groups, 0 < g) (rest : List Char) :
    (s.push part rest).Numbered :=
  ⟨h.level.push hpart, h.outer⟩

theorem enter {opening : Opening} (h : s.Numbered) (hopening : opening.Numbered)
    (rest : List Char) : (s.enter opening rest).Numbered :=
  ⟨by simp [State.enter, Level.Numbered], List.forall_mem_cons.mpr ⟨⟨h.level, hopening⟩, h.outer⟩⟩

/-- The next group has the number after those that were given. -/
theorem enterCapture (h : s.Numbered) (rest : List Char) : (s.enterCapture rest).Numbered :=
  have hnext : Opening.Numbered (.capture (s.captures + 1)) := Nat.succ_pos s.captures
  (h.enter hnext rest).of_eq rfl rfl

theorem enterNamed (h : s.Numbered) (ht : s.enterNamed text = .ok t) : t.Numbered := by
  obtain ⟨⟨name, rest⟩, -, ht⟩ := bind_eq_ok.mp ht
  simp only at ht
  split at ht
  · cases ht
  · cases ht
    exact (h.enterCapture rest).of_eq rfl rfl

theorem openGroup (h : s.Numbered) (ht : openGroup s text = .ok t) : t.Numbered := by
  simp only [Reader.openGroup] at ht
  split at ht
  iterate 4 cases ht
  iterate 2 exact h.enterNamed ht
  · obtain ⟨⟨changes, left⟩, -, ht⟩ := bind_eq_ok.mp ht
    simp only at ht
    split at ht
    · have hflags : ∀ g ∈ (Ast.flags changes).groups, 0 < g := by simp [Ast.groups]
      split at ht <;> cases ht
      exact (h.push hflags []).of_eq rfl rfl
    · have hplain : Opening.Numbered (.plain changes) := trivial
      cases ht
      exact (h.enter hplain []).of_eq rfl rfl
  · cases ht
    exact h.enterCapture _

theorem closeGroup (h : s.Numbered) (ht : closeGroup s rest = .ok t) : t.Numbered := by
  simp only [Reader.closeGroup] at ht
  split at ht
  · cases ht
  · rename_i o outer houter
    cases ht
    have hall := h.outer
    rw [houter] at hall
    obtain ⟨⟨hlevel, hopening⟩, hrest⟩ := List.forall_mem_cons.mp hall
    refine ⟨hlevel.push ?_, hrest⟩
    cases hcase : o.opening with
    | capture index =>
        rw [hcase] at hopening
        exact List.forall_mem_cons.mpr ⟨hopening, h.level.close⟩
    | plain changes => exact h.level.close

theorem repeatLast {c : Count} {greedy : Bool} (h : s.Numbered)
    (ht : repeatLast s c greedy rest = .ok t) : t.Numbered := by
  simp only [Reader.repeatLast] at ht
  split at ht
  iterate 3 cases ht
  · rename_i last parts _ _ hparts
    cases ht
    refine ⟨?_, h.outer⟩
    have hlevel := h.level
    rw [Level.Numbered, hparts] at hlevel
    exact List.forall_mem_cons.mpr (List.forall_mem_cons.mp hlevel)

end State.Numbered

/-- A class has no groups. -/
theorem groups_of_classBody {fuel : Nat} {ignoring : Bool} {current : OpenClass}
    {outer : List OpenClass} (h : classBody ignoring fuel current outer text = .ok (part, rest)) :
    part.groups = [] := by
  induction fuel generalizing current outer text with
  | zero => cases h
  | succ fuel ih =>
      simp only [classBody] at h
      split at h
      · cases h
      · split at h
        · exact ih h
        · obtain ⟨⟨inner, left⟩, -, h⟩ := bind_eq_ok.mp h
          exact ih h
      · split at h
        · cases h
          rfl
        · exact ih h
      · split at h
        · exact ih h
        · obtain ⟨⟨m, left⟩, -, h⟩ := bind_eq_ok.mp h
          exact ih h

theorem groups_of_classExpr {ignoring : Bool} (h : classExpr ignoring text = .ok (part, rest)) :
    part.groups = [] := by
  obtain ⟨⟨start, left⟩, -, h⟩ := bind_eq_ok.mp h
  exact groups_of_classBody h

/-- Reading a part keeps the groups numbered. -/
theorem State.Numbered.step (h : s.Numbered) (ht : step s text = .ok t) : t.Numbered := by
  have hpush : ∀ {part rest}, part.groups = [] → (s.push part rest).Numbered := fun hnone =>
    h.push (by simp [hnone]) _
  simp only [Reader.step] at ht
  split at ht
  case h_1 =>
    cases ht
    exact h.of_eq rfl rfl
  case h_2 => exact h.openGroup ht
  case h_3 => exact h.closeGroup ht
  case h_4 =>
    -- A bar: the branch at hand becomes one of those that are read.
    cases ht
    refine ⟨List.forall_mem_cons.mpr ⟨h.level.sequence, fun a ha => ?_⟩, h.outer⟩
    exact h.level a (List.mem_append_right _ ha)
  case h_5 =>
    obtain ⟨⟨part, left⟩, hpart, ht⟩ := bind_eq_ok.mp ht
    cases ht
    exact hpush (groups_of_classExpr hpart)
  case h_6 | h_7 | h_8 => exact h.repeatLast ht
  case h_9 =>
    split at ht
    · obtain ⟨⟨c, left⟩, -, ht⟩ := bind_eq_ok.mp ht
      exact h.repeatLast ht
    · cases ht
  case h_10 =>
    obtain ⟨⟨a, left⟩, -, ht⟩ := bind_eq_ok.mp ht
    cases ht
    exact hpush rfl
  all_goals
    cases ht
    exact hpush rfl

/-- So the groups of a pattern are numbered. -/
theorem groups_of_run {fuel : Nat} {a : Ast} (h : s.Numbered) (ha : run fuel s = .ok a) :
    ∀ g ∈ a.groups, 0 < g := by
  induction fuel generalizing s with
  | zero => cases ha
  | succ fuel ih =>
      simp only [run] at ha
      split at ha
      · split at ha <;> cases ha
        exact h.level.close
      · obtain ⟨t, ht, ha⟩ := bind_eq_ok.mp ha
        exact ih (h.step ht) ha

end Reader

/-- The groups of a pattern that was read are numbered from one on. -/
theorem Ast.groups_pos_of_read {text : List Char} {a : Ast} (h : Ast.read text = .ok a) :
    ∀ g ∈ a.groups, 0 < g := by
  obtain ⟨b, hrun, h⟩ := bind_eq_ok.mp h
  split at h <;> cases h
  exact Reader.groups_of_run ⟨by simp [Reader.Level.Numbered], by simp⟩ hrun

end Pattern

/-- A pattern that is ready for use searches for a node whose groups leave the number of the whole
match alone. -/
theorem Pattern.exists_node_of_compile {source : String} {p : Pattern}
    (h : Pattern.compile source = .ok p) :
    ∃ n : Pattern.Node, p = ⟨n.program, n.captures⟩ ∧ 0 ∉ n.groups := by
  rw [Pattern.compile] at h
  split at h
  · cases h
  · rename_i n hmeaning
    split at h <;> cases h
    obtain ⟨a, hread, hmeaning⟩ := bind_eq_ok.mp hmeaning
    exact ⟨n, rfl, fun hzero =>
      Nat.lt_irrefl 0 (Ast.groups_pos_of_read hread 0 (Ast.groups_meaning hmeaning hzero))⟩

end ContainerLint
