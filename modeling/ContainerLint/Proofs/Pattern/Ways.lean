import ContainerLint.Pattern.Search
import ContainerLint.Proofs.Pattern.Places
import Mathlib.Data.List.Basic

/-!
# The ways of a pattern

`Node.ways` lists the ways in which a node matches from a place on, in order of preference, each
with the place where it ends and what was saved on it. It is defined along the node, so what is
known of its parts gives what is known of the node. A repetition without bound is tried as often
as there are characters left, which is enough if each round takes text (`upTo_eq_of_le`).
-/

namespace ContainerLint.Pattern

theorem Slots.place?_cons (slots : Slots) (slot other : Nat) (k : Cursor) :
    Slots.place? ((other, k) :: slots) slot =
      if other = slot then some k else slots.place? slot := by
  by_cases h : other = slot <;> simp [Slots.place?, h]

theorem Slots.place?_cons_ne {slots : Slots} {slot other : Nat} {k : Cursor} (h : other ≠ slot) :
    Slots.place? ((other, k) :: slots) slot = slots.place? slot := by
  rw [Slots.place?_cons, if_neg h]

/-- A way through a pattern: the place where it has come to, and what was saved on it. -/
structure Way where
  place : Cursor
  slots : Slots

namespace Way

/-- Goes past one character, if it is one of those accepted. -/
def take (accepts : Char → Bool) (w : Way) : List Way :=
  match w.place.rest with
  | [] => []
  | c :: rest => if accepts c then [⟨w.place.past c rest, w.slots⟩] else []

/-- Saves the place in a slot. -/
def save (slot : Nat) (w : Way) : Way := ⟨w.place, (slot, w.place) :: w.slots⟩

/-- The ways inside a part and the ways past it, in order of preference. -/
def prefer (greedy : Bool) (inside past : List Way) : List Way :=
  if greedy then inside ++ past else past ++ inside

/-- The ways of one part after the other, a number of times. -/
def power (part : Way → List Way) : Nat → Way → List Way
  | 0, w => [w]
  | n + 1, w => (part w).flatMap (power part n)

/-- The ways of one part after the other, up to a number of times. -/
def upTo (part : Way → List Way) (greedy : Bool) : Nat → Way → List Way
  | 0, w => [w]
  | n + 1, w => prefer greedy ((part w).flatMap (upTo part greedy n)) [w]

/-- The ways past a literal text. -/
def literal : List Char → Way → List Way
  | [], w => [w]
  | c :: text, w => (w.take (c = ·)).flatMap (literal text)

end Way

namespace Node

/-- The ways in which a node matches, the preferred one first. -/
def ways : Node → Way → List Way
  | .empty, w => [w]
  | .literal text, w => Way.literal text w
  | .set chars, w => w.take chars.contains
  | .look l, w => if l.holds w.place then [w] else []
  | .rep sub count greedy, w =>
    (Way.power sub.ways count.min w).flatMap fun u =>
      Way.upTo sub.ways greedy
        (match count.max with
        | some m => m - count.min
        | none => u.place.rest.length) u
  | .capture index sub, w => (sub.ways (w.save (2 * index))).map (Way.save (2 * index + 1))
  | .cat a b, w => (a.ways w).flatMap b.ways
  | .alt a b, w => a.ways w ++ b.ways w

/-- Every part that is repeated without bound takes text. -/
def productive : Node → Bool
  | .rep sub count _ => sub.productive && (count.max.isSome || sub.takesText)
  | .capture _ sub => sub.productive
  | .cat a b => a.productive && b.productive
  | .alt a b => a.productive && b.productive
  | _ => true

end Node

/-! ## Where ways lead -/

namespace Way

variable {part : Way → List Way} {u w : Way} {accepts : Char → Bool} {greedy : Bool} {n m : Nat}

theorem mem_take :
    u ∈ w.take accepts ↔ ∃ c rest, w.place.rest = c :: rest ∧ accepts c = true ∧
      u = ⟨w.place.past c rest, w.slots⟩ := by
  simp only [take]
  split
  · rename_i hrest
    simp [hrest]
  · rename_i c rest hrest
    split
    · rename_i hc
      rw [List.mem_singleton]
      constructor
      · exact fun heq => ⟨c, rest, hrest, hc, heq⟩
      · rintro ⟨d, tail, hsame, -, heq⟩
        cases hrest.symm.trans hsame
        exact heq
    · rename_i hc
      simp [hrest, hc]

theorem mem_prefer {inside past : List Way} :
    u ∈ prefer greedy inside past ↔ u ∈ inside ∨ u ∈ past := by
  simp only [prefer]
  split
  · exact List.mem_append
  · rw [List.mem_append]
    exact or_comm

/-- One more time at the end is one more time at the start. -/
theorem power_succ (part : Way → List Way) (n : Nat) (w : Way) :
    power part (n + 1) w = (power part n w).flatMap part := by
  induction n generalizing w with
  | zero => simp [power]
  | succ n ih =>
      rw [power, power, List.flatMap_assoc]
      exact congrArg (List.flatMap · (part w)) (funext ih)

/-- A relation that holds along each round holds along all of them. -/
theorem power_induction {r : Way → Way → Prop} (hrefl : ∀ w, r w w)
    (htrans : ∀ {u v w}, r u v → r v w → r u w) (hpart : ∀ w, ∀ u ∈ part w, r w u)
    (h : u ∈ power part n w) : r w u := by
  induction n generalizing w with
  | zero =>
      rw [power, List.mem_singleton] at h
      exact h ▸ hrefl w
  | succ n ih =>
      obtain ⟨v, hv, hu⟩ := List.mem_flatMap.mp h
      exact htrans (hpart w v hv) (ih hu)

theorem upTo_induction {r : Way → Way → Prop} (hrefl : ∀ w, r w w)
    (htrans : ∀ {u v w}, r u v → r v w → r u w) (hpart : ∀ w, ∀ u ∈ part w, r w u)
    (h : u ∈ upTo part greedy n w) : r w u := by
  induction n generalizing w with
  | zero =>
      rw [upTo, List.mem_singleton] at h
      exact h ▸ hrefl w
  | succ n ih =>
      rcases mem_prefer.mp h with h | h
      · obtain ⟨v, hv, hu⟩ := List.mem_flatMap.mp h
        exact htrans (hpart w v hv) (ih hu)
      · rw [List.mem_singleton] at h
        exact h ▸ hrefl w

/-- What takes text has no way at the end of the text. -/
theorem eq_nil_of_takes (hpart : ∀ w, ∀ u ∈ part w, u.place.rest.length < w.place.rest.length)
    (hend : w.place.rest.length = 0) : part w = [] := by
  refine List.eq_nil_iff_forall_not_mem.mpr fun u hu => ?_
  have hlt := hpart w u hu
  omega

/-- If each round takes text, more rounds than characters make no difference. -/
theorem upTo_eq_of_le (hpart : ∀ w, ∀ u ∈ part w, u.place.rest.length < w.place.rest.length)
    (hn : w.place.rest.length ≤ n) (hm : w.place.rest.length ≤ m) :
    upTo part greedy n w = upTo part greedy m w := by
  induction n generalizing m w with
  | zero =>
      have hnone := eq_nil_of_takes hpart (Nat.le_zero.mp hn)
      cases m <;> simp [upTo, prefer, hnone]
  | succ n ih =>
      cases m with
      | zero =>
          have hnone := eq_nil_of_takes hpart (Nat.le_zero.mp hm)
          simp [upTo, prefer, hnone]
      | succ m =>
          have hrounds : (part w).flatMap (upTo part greedy n) =
              (part w).flatMap (upTo part greedy m) := by
            refine List.flatMap_congr fun u hu => ?_
            have hlt := hpart w u hu
            exact ih (by omega) (by omega)
          rw [upTo, upTo, hrounds]

/-! ## Literals and runs of characters -/

/-- A literal text is passed if it comes next. -/
theorem literal_eq (text : List Char) (w : Way) :
    literal text w =
      if text.isPrefixOf w.place.rest then [⟨w.place.forth text.length, w.slots⟩] else [] := by
  induction text generalizing w with
  | nil => rfl
  | cons c text ih =>
      cases hrest : w.place.rest with
      | nil => simp [literal, take, hrest]
      | cons d rest =>
          rw [literal, take, hrest]
          by_cases hcd : c = d
          · simp [hcd, ih, Cursor.forth_cons hrest]
          · simp [hcd]

/-- The first way after the first way, if there is one, comes first. -/
theorem head?_flatMap_of_head? {ws : List Way} {onward : Way → List Way} {v : Way}
    (hfirst : ws.head? = some u) (hsecond : (onward u).head? = some v) :
    (ws.flatMap onward).head? = some v := by
  obtain ⟨rest, rfl⟩ := List.head?_eq_some_iff.mp hfirst
  rw [List.flatMap_cons, List.head?_append, hsecond]
  rfl

/-- Ways in order of preference, of which those that take less text are listed first. -/
def ordered (greedy : Bool) (ways : List Way) : List Way := if greedy then ways.reverse else ways

/-- A repetition of one character takes any number of those that are accepted and come next. -/
theorem upTo_take (accepts : Char → Bool) (greedy : Bool) {n : Nat} {w : Way}
    (hn : w.place.rest.length ≤ n) :
    upTo (take accepts) greedy n w =
      ordered greedy ((List.range ((w.place.rest.takeWhile accepts).length + 1)).map fun i =>
        ⟨w.place.forth i, w.slots⟩) := by
  induction n generalizing w with
  | zero =>
      have hrest := List.eq_nil_of_length_eq_zero (Nat.le_zero.mp hn)
      cases greedy <;> simp [upTo, ordered, hrest]
  | succ n ih =>
      cases hrest : w.place.rest with
      | nil => cases greedy <;> simp [upTo, prefer, ordered, take, hrest]
      | cons c rest =>
          cases hc : accepts c with
          | false => cases greedy <;> simp [upTo, prefer, ordered, take, hrest, hc]
          | true =>
              rw [hrest, List.length_cons] at hn
              have hmore := ih (w := ⟨w.place.past c rest, w.slots⟩) (Nat.le_of_succ_le_succ hn)
              have htake : w.take accepts = [⟨w.place.past c rest, w.slots⟩] := by
                simp [take, hrest, hc]
              rw [upTo, htake, List.flatMap_singleton, hmore, List.takeWhile_cons_of_pos hc,
                List.length_cons, List.range_succ_eq_map (n := _ + 1), List.map_cons,
                List.map_map]
              -- Taking nothing comes last or first.
              simp only [Function.comp_def, Cursor.forth_cons hrest]
              cases greedy with
              | true => exact List.reverse_cons.symm
              | false => rfl

/-- A greedy repetition of one character first takes all that are accepted. -/
theorem head?_upTo_take (accepts : Char → Bool) {n : Nat} {w : Way}
    (hn : w.place.rest.length ≤ n) :
    (upTo (take accepts) true n w).head? =
      some ⟨w.place.forth (w.place.rest.takeWhile accepts).length, w.slots⟩ := by
  rw [upTo_take accepts true hn, List.range_succ, List.map_append, ordered, if_pos rfl,
    List.reverse_append]
  rfl

end Way

namespace Node

/-- The numbers of the groups in a node. -/
def groups : Node → List Nat
  | .rep sub _ _ => sub.groups
  | .capture index sub => index :: sub.groups
  | .cat a b => a.groups ++ b.groups
  | .alt a b => a.groups ++ b.groups
  | _ => []

/-- A relation that holds when a character is passed, and when an end of one of its groups is
saved, holds along the ways of a node. -/
theorem ways_induction {r : Way → Way → Prop} (hrefl : ∀ w, r w w)
    (htrans : ∀ {u v w}, r u v → r v w → r u w)
    (htake : ∀ (accepts : Char → Bool) (w : Way), ∀ u ∈ w.take accepts, r w u) (n : Node)
    (hsave : ∀ index ∈ n.groups, ∀ w : Way,
      r w (w.save (2 * index)) ∧ r w (w.save (2 * index + 1)))
    {u w : Way} (h : u ∈ n.ways w) : r w u := by
  induction n generalizing u w with
  | empty =>
      rw [ways, List.mem_singleton] at h
      exact h ▸ hrefl w
  | literal text =>
      rw [ways] at h
      induction text generalizing w with
      | nil =>
          rw [Way.literal, List.mem_singleton] at h
          exact h ▸ hrefl w
      | cons c text ih =>
          obtain ⟨v, hv, hu⟩ := List.mem_flatMap.mp h
          exact htrans (htake _ w v hv) (ih hsave hu)
  | set chars => exact htake _ w u h
  | look l =>
      simp only [ways] at h
      split at h
      · rw [List.mem_singleton.mp h]
        exact hrefl w
      · simp at h
  | rep sub count greedy ih =>
      obtain ⟨v, hv, hu⟩ := List.mem_flatMap.mp h
      have hround : ∀ w, ∀ u ∈ sub.ways w, r w u := fun w u hu => ih hsave hu
      exact htrans (Way.power_induction hrefl htrans hround hv)
        (Way.upTo_induction hrefl htrans hround hu)
  | capture index sub ih =>
      obtain ⟨v, hv, rfl⟩ := List.mem_map.mp h
      have hends := hsave index List.mem_cons_self
      have hinside := ih (fun i hi => hsave i (List.mem_cons_of_mem _ hi)) hv
      exact htrans (hends w).1 (htrans hinside (hends v).2)
  | cat a b iha ihb =>
      obtain ⟨v, hv, hu⟩ := List.mem_flatMap.mp h
      exact htrans (iha (fun i hi => hsave i (List.mem_append_left _ hi)) hv)
        (ihb (fun i hi => hsave i (List.mem_append_right _ hi)) hu)
  | alt a b iha ihb =>
      rcases List.mem_append.mp h with h | h
      · exact iha (fun i hi => hsave i (List.mem_append_left _ hi)) h
      · exact ihb (fun i hi => hsave i (List.mem_append_right _ hi)) h

/-- A way goes on in its text. -/
theorem place_mem_onward (n : Node) {u w : Way} (h : u ∈ n.ways w) :
    u.place ∈ w.place.onward := by
  refine n.ways_induction (r := fun w u => u.place ∈ w.place.onward)
    (fun w => Cursor.self_mem_onward _) (fun hv hw => Cursor.mem_onward_trans hv hw) ?_
    (fun _ _ w => ⟨Cursor.self_mem_onward _, Cursor.self_mem_onward _⟩) h
  intro accepts w u h
  obtain ⟨c, rest, hrest, -, rfl⟩ := Way.mem_take.mp h
  exact Cursor.past_mem_onward hrest

theorem rest_length_le_of_mem_ways (n : Node) {u w : Way} (h : u ∈ n.ways w) :
    u.place.rest.length ≤ w.place.rest.length :=
  Cursor.rest_length_le (n.place_mem_onward h)

/-- A repetition with a round that must be takes text if the part that is repeated does. -/
theorem rest_length_lt_of_round {sub : Node} {count : Count} {greedy : Bool} {times : Nat}
    (htakes : ∀ {u w : Way}, u ∈ sub.ways w → u.place.rest.length < w.place.rest.length)
    (hcount : count.min = times + 1) {u w : Way} (h : u ∈ (rep sub count greedy).ways w) :
    u.place.rest.length < w.place.rest.length := by
  obtain ⟨v, hv, hu⟩ := List.mem_flatMap.mp h
  have hround : ∀ w, ∀ u ∈ sub.ways w, u.place.rest.length ≤ w.place.rest.length :=
    fun _ _ hu => Nat.le_of_lt (htakes hu)
  have hmay : u.place.rest.length ≤ v.place.rest.length :=
    Way.upTo_induction (r := fun w u => u.place.rest.length ≤ w.place.rest.length)
      (fun _ => Nat.le_refl _) (fun h h' => Nat.le_trans h' h) hround hu
  rw [hcount] at hv
  obtain ⟨first, hfirst, hv⟩ := List.mem_flatMap.mp hv
  have hmust : v.place.rest.length ≤ first.place.rest.length :=
    Way.power_induction (r := fun w u => u.place.rest.length ≤ w.place.rest.length)
      (fun _ => Nat.le_refl _) (fun h h' => Nat.le_trans h' h) hround hv
  have hlt := htakes hfirst
  omega

/-- A node with a positive least length takes text on every way. -/
theorem rest_length_lt_of_minLength (n : Node) {m : Nat} (hm : n.minLength = some (m + 1))
    {u w : Way} (h : u ∈ n.ways w) : u.place.rest.length < w.place.rest.length := by
  have htake : ∀ {accepts : Char → Bool} {u w : Way}, u ∈ w.take accepts →
      u.place.rest.length < w.place.rest.length := by
    intro accepts u w h
    obtain ⟨c, rest, hrest, -, rfl⟩ := Way.mem_take.mp h
    simp [hrest]
  induction n generalizing m u w with
  | empty | look l => simp [minLength] at hm
  | literal text =>
      cases text with
      | nil => simp [minLength, textLength] at hm
      | cons c text =>
          obtain ⟨v, hv, hu⟩ := List.mem_flatMap.mp h
          have hle := rest_length_le_of_mem_ways (.literal text) hu
          exact Nat.lt_of_le_of_lt hle (htake hv)
  | set chars => exact htake h
  | rep sub count greedy ih =>
      rw [minLength, Option.map_eq_some_iff] at hm
      obtain ⟨l, hl, hproduct⟩ := hm
      -- The product is positive, so the part takes text and there is a round that must be.
      cases l with
      | zero => simp at hproduct
      | succ l =>
          cases hcount : count.min with
          | zero => simp [hcount] at hproduct
          | succ times => exact rest_length_lt_of_round (ih hl) hcount h
  | capture index sub ih =>
      obtain ⟨v, hv, rfl⟩ := List.mem_map.mp h
      exact ih (w := w.save (2 * index)) (u := v) hm hv
  | cat a b iha ihb =>
      rw [minLength, Option.bind_eq_some_iff] at hm
      obtain ⟨i, hi, hm⟩ := hm
      rw [Option.map_eq_some_iff] at hm
      obtain ⟨j, hj, hsum⟩ := hm
      obtain ⟨v, hv, hu⟩ := List.mem_flatMap.mp h
      have hav := a.rest_length_le_of_mem_ways hv
      have hbu := b.rest_length_le_of_mem_ways hu
      cases i with
      | succ i => exact Nat.lt_of_le_of_lt hbu (iha hi hv)
      | zero =>
          rw [Nat.zero_add] at hsum
          exact Nat.lt_of_lt_of_le (ihb (hsum ▸ hj) hu) hav
  | alt a b iha ihb =>
      rw [minLength, Option.bind_eq_some_iff] at hm
      obtain ⟨i, hi, hm⟩ := hm
      rw [Option.map_eq_some_iff] at hm
      obtain ⟨j, hj, hmin⟩ := hm
      cases i with
      | zero => simp at hmin
      | succ i =>
          cases j with
          | zero => simp at hmin
          | succ j =>
              rcases List.mem_append.mp h with h | h
              · exact iha hi h
              · exact ihb hj h

/-- A node that is known to take text does so on every way. -/
theorem rest_length_lt_of_takesText (n : Node) (hn : n.takesText = true) {u w : Way}
    (h : u ∈ n.ways w) : u.place.rest.length < w.place.rest.length := by
  simp only [takesText] at hn
  split at hn
  · rename_i m hm
    exact n.rest_length_lt_of_minLength hm h
  · cases hn

end Node

end ContainerLint.Pattern
