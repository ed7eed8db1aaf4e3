import ContainerLint.Proofs.Pattern.Iteration
import ContainerLint.Proofs.Pattern.LineByLine

/-!
# What groups hold

Two tests look at a pattern alone: whether it passes no character of a set (`Node.avoids`), and
whether a group gets some text without such characters (`Node.fills`). What they say holds on
every way through the pattern (`Passes.avoids`, `Passes.has_of_fills`), so a group that passes the
test holds such a text in every match of every text (`Node.exists_text?_of_fills`). Whether a part
takes text is seen from its least length, which bounds the bytes that are passed
(`Passes.minLength_le`).
-/

namespace ContainerLint

namespace CharSet

/-- No range of one set reaches into a range of the other. -/
def disjoint (s t : CharSet) : Bool :=
  s.ranges.all fun r => t.ranges.all fun q => r.2 < q.1 || q.2 < r.1

variable {s t : CharSet} {c : Char}

/-- A member lies in one of the ranges, and not before the first of them. -/
theorem exists_range_of_contains (h : s.contains c = true) :
    (∃ r ∈ s.ranges, r.1 ≤ c.toNat ∧ c.toNat ≤ r.2) ∧ ∀ r ∈ s.ranges.head?, r.1 ≤ c.toNat := by
  obtain ⟨ranges⟩ := s
  simp only [contains] at h ⊢
  induction ranges with
  | nil => cases h
  | cons r ranges ih =>
      obtain ⟨lo, hi⟩ := r
      rw [inRanges] at h
      split at h
      · cases h
      · rename_i hlo
        have hlo : lo ≤ c.toNat := Nat.le_of_not_lt hlo
        refine ⟨?_, by simpa using hlo⟩
        split at h
        · rename_i hhi
          exact ⟨(lo, hi), List.mem_cons_self, hlo, hhi⟩
        · obtain ⟨⟨r, hr, hin⟩, -⟩ := ih h
          exact ⟨r, List.mem_cons_of_mem _ hr, hin⟩

theorem contains_eq_false_of_disjoint (h : s.disjoint t = true) (hc : s.contains c = true) :
    t.contains c = false := by
  rw [← Bool.not_eq_true]
  intro hother
  obtain ⟨⟨r, hr, hlo, hhi⟩, -⟩ := exists_range_of_contains hc
  obtain ⟨⟨q, hq, hlo', hhi'⟩, -⟩ := exists_range_of_contains hother
  have hapart := List.all_eq_true.mp (List.all_eq_true.mp h r hr) q hq
  simp only [Bool.or_eq_true, decide_eq_true_eq] at hapart
  omega

end CharSet

namespace Pattern

variable {k l m : Cursor} {w u v : Way} {slots : Slots} {avoided : CharSet} {g : Nat}

namespace Cursor

theorem textTo_self (k : Cursor) : k.textTo k = [] := by simp [textTo]

theorem textTo_past {c : Char} {rest : List Char} (h : k.rest = c :: rest) :
    k.textTo (k.past c rest) = [c] := by simp [textTo, h]

/-- The text up to a later place is the text up to a place in between and the text from there. -/
theorem textTo_append (hl : l ∈ k.onward) (hm : m ∈ l.onward) :
    k.textTo m = k.textTo l ++ l.textTo m := by
  have hfirst := (rest_eq_of_mem_onward hl).1
  have hsecond := (rest_eq_of_mem_onward hm).1
  have hwhole := (rest_eq_of_mem_onward (mem_onward_trans hl hm)).1
  rw [hsecond, ← List.append_assoc, hwhole] at hfirst
  exact List.append_cancel_right hfirst

/-- Where bytes were passed there is some text. -/
theorem textTo_ne_nil (hl : l ∈ k.onward) (hoffset : k.offset < l.offset) : k.textTo l ≠ [] := by
  intro hnil
  have hsame := (rest_eq_of_mem_onward hl).2
  rw [hnil] at hsame
  exact absurd hoffset (Nat.not_lt.mpr (Nat.le_of_eq hsame))

end Cursor

/-! ## The least length -/

theorem codeLength_toNat (c : Char) : codeLength c.toNat = c.utf8Size := by
  have hcode : c.val.toNat = c.toNat := rfl
  simp only [codeLength, Char.utf8Size, UInt32.le_iff_toNat_le, hcode, UInt32.toNat_ofNatLT]
  split_ifs <;> omega

theorem codeLength_mono {a b : Nat} (h : a ≤ b) : codeLength a ≤ codeLength b := by
  simp only [codeLength]
  split_ifs <;> omega

namespace Way

theorem offset_of_mem_take {accepts : Char → Bool} (h : u ∈ w.take accepts) :
    ∃ c, accepts c = true ∧ u.place.offset = w.place.offset + c.utf8Size := by
  obtain ⟨c, rest, -, hc, rfl⟩ := mem_take.mp h
  exact ⟨c, hc, rfl⟩

theorem offset_of_mem_literal {text : List Char} (h : u ∈ literal text w) :
    u.place.offset = w.place.offset + textLength text := by
  induction text generalizing w with
  | nil =>
      cases List.mem_singleton.mp h
      rfl
  | cons c text ih =>
      obtain ⟨v, hv, hu⟩ := List.mem_flatMap.mp h
      obtain ⟨d, hd, hoffset⟩ := offset_of_mem_take hv
      obtain rfl := of_decide_eq_true hd
      rw [ih hu, hoffset, textLength, codeLength_toNat, Nat.add_assoc]

namespace Rounds

variable {part : Way → Way → Prop} {n least : Nat}

/-- If each round passes some bytes, all of them together pass as many times more. -/
theorem offset_le (hpart : ∀ w u, part w u → w.place.offset + least ≤ u.place.offset)
    (h : Rounds part n w u) : w.place.offset + n * least ≤ u.place.offset := by
  induction n generalizing w with
  | zero =>
      cases h
      simp
  | succ n ih =>
      obtain ⟨v, hv, hu⟩ := h
      have hfirst := hpart w v hv
      have hrest := ih hu
      rw [Nat.succ_mul]
      omega

/-- The last round ends where all of them end. -/
theorem exists_last (h : Rounds part (n + 1) w u) : ∃ v, part v u := by
  induction n generalizing w with
  | zero =>
      obtain ⟨v, hv, rfl⟩ := h
      exact ⟨w, hv⟩
  | succ n ih =>
      obtain ⟨v, -, hu⟩ := h
      exact ih hu

end Rounds

end Way

namespace Node

/-- The least length of a node bounds the bytes that are passed on any way through it. -/
theorem Passes.minLength_le {n : Node} {least : Nat} (h : n.Passes w u)
    (hleast : n.minLength = some least) : w.place.offset + least ≤ u.place.offset := by
  induction n generalizing least w u with
  | empty =>
      cases h
      cases hleast
      exact Nat.le_refl _
  | literal text =>
      cases hleast
      exact Nat.le_of_eq (Way.offset_of_mem_literal h).symm
  | set chars =>
      obtain ⟨c, hc, hoffset⟩ := Way.offset_of_mem_take h
      obtain ⟨r, hr, rfl⟩ := Option.map_eq_some_iff.mp hleast
      have hfirst := (CharSet.exists_range_of_contains hc).2 r hr
      rw [hoffset, ← codeLength_toNat]
      exact Nat.add_le_add_left (codeLength_mono hfirst) _
  | look l =>
      obtain ⟨-, rfl⟩ := h
      cases hleast
      exact Nat.le_refl _
  | rep sub count greedy ih =>
      obtain ⟨n, hmin, -, hrounds⟩ := h
      obtain ⟨each, heach, rfl⟩ := Option.map_eq_some_iff.mp hleast
      have hall := hrounds.offset_le fun _ _ hround => ih hround heach
      have hcount : each * count.min ≤ n * each :=
        Nat.mul_comm n each ▸ Nat.mul_le_mul_left each hmin
      omega
  | capture index sub ih =>
      obtain ⟨v, hv, rfl⟩ := h
      exact ih (w := w.save (2 * index)) (u := v) hv hleast
  | cat a b iha ihb =>
      obtain ⟨v, hv, hu⟩ := h
      obtain ⟨i, hi, hrest⟩ := Option.bind_eq_some_iff.mp hleast
      obtain ⟨j, hj, rfl⟩ := Option.map_eq_some_iff.mp hrest
      have hfirst := iha hv hi
      have hsecond := ihb hu hj
      omega
  | alt a b iha ihb =>
      obtain ⟨i, hi, hrest⟩ := Option.bind_eq_some_iff.mp hleast
      obtain ⟨j, hj, rfl⟩ := Option.map_eq_some_iff.mp hrest
      rcases h with h | h
      · have hfirst := iha h hi
        omega
      · have hsecond := ihb h hj
        omega

theorem Passes.offset_lt {n : Node} (h : n.Passes w u) (htakes : n.takesText = true) :
    w.place.offset < u.place.offset := by
  rw [takesText] at htakes
  split at htakes
  · rename_i least hleast
    have hle := h.minLength_le hleast
    omega
  · cases htakes

/-! ## Characters that are not passed -/

/-- The node passes no character of the set. -/
def avoids (avoided : CharSet) : Node → Bool
  | .empty => true
  | .literal text => text.all fun c => !avoided.contains c
  | .set chars => chars.disjoint avoided
  | .look _ => true
  | .rep sub _ _ => sub.avoids avoided
  | .capture _ sub => sub.avoids avoided
  | .cat a b => a.avoids avoided && b.avoids avoided
  | .alt a b => a.avoids avoided && b.avoids avoided

end Node

/-- Between two ways no character of the set was passed. -/
structure Way.Avoids (avoided : CharSet) (w u : Way) : Prop where
  place : u.place ∈ w.place.onward
  text : ∀ c ∈ w.place.textTo u.place, avoided.contains c = false

namespace Way.Avoids

theorem refl (avoided : CharSet) (w : Way) : Avoids avoided w w :=
  ⟨w.place.self_mem_onward, by simp [Cursor.textTo_self]⟩

theorem trans (h : Avoids avoided w v) (hmore : Avoids avoided v u) : Avoids avoided w u where
  place := Cursor.mem_onward_trans h.place hmore.place
  text := by
    rw [Cursor.textTo_append h.place hmore.place]
    exact List.forall_mem_append.mpr ⟨h.text, hmore.text⟩

theorem take {accepts : Char → Bool}
    (haccepts : ∀ c, accepts c = true → avoided.contains c = false)
    (h : u ∈ w.take accepts) : Avoids avoided w u := by
  obtain ⟨c, rest, hrest, hc, rfl⟩ := mem_take.mp h
  refine ⟨Cursor.past_mem_onward hrest, ?_⟩
  rw [Cursor.textTo_past hrest]
  exact List.forall_mem_singleton.mpr (haccepts c hc)

theorem literal {text : List Char} (htext : ∀ c ∈ text, avoided.contains c = false)
    (h : u ∈ Way.literal text w) : Avoids avoided w u := by
  induction text generalizing w with
  | nil =>
      cases List.mem_singleton.mp h
      exact refl avoided _
  | cons c text ih =>
      obtain ⟨hc, htext⟩ := List.forall_mem_cons.mp htext
      obtain ⟨v, hv, hu⟩ := List.mem_flatMap.mp h
      have hfirst : ∀ d, decide (c = d) = true → avoided.contains d = false :=
        fun d hd => of_decide_eq_true hd ▸ hc
      exact (take hfirst hv).trans (ih htext hu)

theorem rounds {part : Way → Way → Prop} (hpart : ∀ w u, part w u → Avoids avoided w u) {n : Nat}
    (h : Way.Rounds part n w u) : Avoids avoided w u :=
  h.lift (refl avoided) trans hpart

end Way.Avoids

/-- On no way through a node that passes the test a character of the set is passed. -/
theorem Node.Passes.avoids {n : Node} (h : n.Passes w u) (hn : n.avoids avoided = true) :
    Way.Avoids avoided w u := by
  induction n generalizing w u with
  | empty =>
      cases h
      exact .refl avoided _
  | literal text => exact .literal (by simpa [Node.avoids] using hn) h
  | set chars => exact .take (fun _ => CharSet.contains_eq_false_of_disjoint hn) h
  | look l =>
      obtain ⟨-, rfl⟩ := h
      exact .refl avoided _
  | rep sub count greedy ih =>
      obtain ⟨n, -, -, hrounds⟩ := h
      exact .rounds (fun _ _ hround => ih hround hn) hrounds
  | capture index sub ih =>
      obtain ⟨v, hv, rfl⟩ := h
      have hinside := ih hv hn
      exact ⟨hinside.place, hinside.text⟩
  | cat a b iha ihb =>
      obtain ⟨v, hv, hu⟩ := h
      obtain ⟨ha, hb⟩ := Bool.and_eq_true_iff.mp hn
      exact (iha hv ha).trans (ihb hu hb)
  | alt a b iha ihb =>
      obtain ⟨ha, hb⟩ := Bool.and_eq_true_iff.mp hn
      rcases h with h | h
      · exact iha h ha
      · exact ihb h hb

/-! ## Groups that always hold some text -/

/-- On every way through the node the group gets some text, and no character of the set. -/
def Node.fills (avoided : CharSet) (g : Nat) : Node → Bool
  | .rep sub count _ => 0 < count.min && sub.fills avoided g
  | .capture index sub =>
    if index = g then sub.takesText && sub.avoids avoided && !sub.groups.contains g
    else sub.fills avoided g
  | .cat a b => b.fills avoided g || (a.fills avoided g && !b.groups.contains g)
  | .alt a b => a.fills avoided g && b.fills avoided g
  | _ => false

/-- The group holds some text, and no character of the set. -/
def Slots.Has (slots : Slots) (avoided : CharSet) (g : Nat) : Prop :=
  ∃ text, slots.text? g = some (String.ofList text) ∧ text ≠ [] ∧
    ∀ c ∈ text, avoided.contains c = false

/-- What is saved for other groups makes no difference for what a group holds. -/
theorem Way.Saves.text?_eq {groups : List Nat} (h : Way.Saves groups w u) (hg : g ∉ groups) :
    u.slots.text? g = w.slots.text? g := by
  have hsame : ∀ slot, slot / 2 = g → u.slots.place? slot = w.slots.place? slot := by
    intro slot hslot
    rcases h.saved slot with hsame | ⟨hmem, -⟩
    · exact hsame
    · exact absurd (hslot ▸ hmem) hg
  rw [Slots.text?, Slots.text?, hsame (2 * g) (by omega), hsame (2 * g + 1) (by omega)]

/-- A group holds what was passed in it. -/
theorem Node.Passes.text?_capture {sub : Node} (h : (Node.capture g sub).Passes w u)
    (hg : g ∉ sub.groups) :
    u.slots.text? g = some (String.ofList (w.place.textTo u.place)) := by
  obtain ⟨v, hv, rfl⟩ := h
  have hstart : v.slots.place? (2 * g) = some w.place := by
    rcases hv.saves.saved (2 * g) with hsame | ⟨hmem, -⟩
    · rw [hsame]
      simp [Way.save, Slots.place?_cons]
    · exact absurd (by simpa using hmem) hg
  simp [Way.save, Slots.text?, Slots.place?_cons, hstart]

/-- A group that passes the test holds some text on every way through the node. -/
theorem Node.Passes.has_of_fills {n : Node} (h : n.Passes w u) (hn : n.fills avoided g = true) :
    u.slots.Has avoided g := by
  induction n generalizing w u with
  | empty | literal | set | look => cases hn
  | rep sub count greedy ih =>
      obtain ⟨n, hmin, -, hrounds⟩ := h
      simp only [fills, Bool.and_eq_true, decide_eq_true_eq] at hn
      obtain ⟨times, rfl⟩ := Nat.exists_eq_succ_of_ne_zero (n := n) (by omega)
      obtain ⟨v, hv⟩ := hrounds.exists_last
      exact ih hv hn.2
  | capture index sub ih =>
      rw [fills] at hn
      split at hn
      · rename_i hindex
        subst hindex
        simp only [Bool.and_eq_true, Bool.not_eq_true', List.contains_eq_mem,
          decide_eq_false_iff_not] at hn
        obtain ⟨⟨htakes, havoids⟩, hgroup⟩ := hn
        refine ⟨_, h.text?_capture hgroup, ?_⟩
        obtain ⟨v, hv, rfl⟩ := h
        have hclear := hv.avoids havoids
        exact ⟨Cursor.textTo_ne_nil hclear.place (hv.offset_lt htakes), hclear.text⟩
      · rename_i hindex
        obtain ⟨v, hv, rfl⟩ := h
        obtain ⟨text, htext, hrest⟩ := ih hv hn
        exact ⟨text, (Slots.text?_cons_ne (by omega) _ _).trans htext, hrest⟩
  | cat a b iha ihb =>
      obtain ⟨v, hv, hu⟩ := h
      simp only [fills, Bool.or_eq_true, Bool.and_eq_true, Bool.not_eq_true',
        List.contains_eq_mem, decide_eq_false_iff_not] at hn
      rcases hn with hb | ⟨ha, hgroup⟩
      · exact ihb hu hb
      · obtain ⟨text, htext, hrest⟩ := iha hv ha
        exact ⟨text, (hu.saves.text?_eq hgroup).trans htext, hrest⟩
  | alt a b iha ihb =>
      obtain ⟨ha, hb⟩ := Bool.and_eq_true_iff.mp hn
      rcases h with h | h
      · exact iha h ha
      · exact ihb h hb

/-- In every match of every text a group that passes the test holds some text. -/
theorem Node.exists_text?_of_fills {n : Node} {captures : Nat} (hnumbered : 0 ∉ n.groups)
    (hfills : n.fills avoided g = true) (hg : g ≠ 0) (hcaptures : g ≤ captures) {text : String}
    {found : Match} (hfound : found ∈ Pattern.all ⟨n.program, captures⟩ text) :
    ∃ part, found.text? g = some part ∧ part ≠ "" ∧
      ∀ c ∈ part.toList, avoided.contains c = false := by
  obtain ⟨slots, hslots, l, hshort, hfirst⟩ := n.exists_first?_of_mem_all hnumbered hfound
  subst hslots
  obtain ⟨u, hpasses, rfl⟩ := passes_of_first? hshort hfirst
  have hwhole : (capture 0 n).fills avoided g = true := by rw [fills, if_neg hg.symm, hfills]
  obtain ⟨part, hpart, hne, hclear⟩ := hpasses.has_of_fills hwhole
  refine ⟨String.ofList part, ?_, by simpa using hne, by simpa using hclear⟩
  rw [Slots.text?_toMatch, if_pos hcaptures, hpart]

end Pattern

end ContainerLint
