import ContainerLint.Pattern.Match
import ContainerLint.Proofs.Pattern.Code
import ContainerLint.Proofs.Pattern.Inline

/-!
# Matching line by line

A linewise node starts where a line starts and stays in it (`Node.Linewise`). So no match of it
starts inside another one, and all matches are found by looking at one place after the other
(`Node.slotsFrom_eq`). What they capture is what is captured in the lines of the text, each taken
by itself (`Node.texts_all`): no match depends on another line, and none reaches into one.
-/

namespace ContainerLint

namespace Pattern

/-- The first place at which something is found, and all that is found from there on. -/
theorem Cursor.findSome?_onward_eq_some {β : Type} {f : Cursor → Option β} {b : β} {k : Cursor}
    (h : k.onward.findSome? f = some b) :
    ∃ l ∈ k.onward, f l = some b ∧ k.onward.filterMap f = l.onward.filterMap f := by
  induction k using Cursor.rest_induction with
  | nil k hrest =>
      rw [Cursor.onward_nil hrest, List.findSome?_singleton] at h
      exact ⟨k, k.self_mem_onward, h, rfl⟩
  | cons k c rest hrest ih =>
      cases hk : f k with
      | some a =>
          rw [Cursor.onward_cons hrest, List.findSome?_cons, hk] at h
          cases h
          exact ⟨k, k.self_mem_onward, hk, rfl⟩
      | none =>
          rw [Cursor.onward_cons hrest, List.findSome?_cons, hk] at h
          obtain ⟨l, hl, hfound, hrest'⟩ := ih h
          refine ⟨l, Cursor.mem_onward_trans (Cursor.past_mem_onward hrest) hl, hfound, ?_⟩
          rw [Cursor.onward_cons hrest, List.filterMap_cons_none hk, hrest']

theorem Slots.place?_inText (l : Cursor) (slots : Slots) (slot : Nat) :
    Slots.place? (slots.map fun s => (s.1, l.inText s.2)) slot =
      (slots.place? slot).map l.inText := by
  simp only [Slots.place?, List.find?_map, Option.map_map]
  rfl

/-- What a group holds, if the places at its ends were saved. -/
def Slots.text? (slots : Slots) (index : Nat) : Option String :=
  (slots.place? (2 * index)).bind fun k =>
    (slots.place? (2 * index + 1)).map fun l => String.ofList (k.textTo l)

/-- A place that is saved for another group makes no difference for what a group holds. -/
theorem Slots.text?_cons_ne {slot index : Nat} (h : slot / 2 ≠ index) (k : Cursor)
    (slots : Slots) :
    Slots.text? ((slot, k) :: slots) index = slots.text? index := by
  rw [text?, text?, place?_cons_ne (by omega), place?_cons_ne (by omega)]

theorem Slots.text?_toMatch (slots : Slots) (captures index : Nat) :
    (slots.toMatch captures).text? index =
      if index ≤ captures then slots.text? index else none := by
  simp only [Match.text?, toMatch, List.getElem?_map]
  by_cases hindex : index ≤ captures
  · have hrange : (List.range (captures + 1))[index]? = some index :=
      List.getElem?_range (Nat.lt_succ_of_le hindex)
    rw [hrange, if_pos hindex, text?]
    simp only [Option.map_some, span?]
    cases slots.place? (2 * index) with
    | none => rfl
    | some k => cases slots.place? (2 * index + 1) <;> rfl
  · have hrange : (List.range (captures + 1))[index]? = none :=
      List.getElem?_eq_none (by rw [List.length_range]; omega)
    rw [hrange, if_neg hindex]
    rfl

namespace Node

/-- What is saved on the first way from a place, the whole match being group zero. -/
def saved (n : Node) (l : Cursor) : Option Slots :=
  ((capture 0 n).ways ⟨l, []⟩).head?.map Way.slots

/-- The node starts where a line starts, and goes on in this line. -/
structure Linewise (n : Node) : Prop where
  starts : ∃ body, n = .cat (.look (.lineStart true)) body
  inline : n.inline = true
  productive : n.productive = true
  takesText : n.takesText = true
  numbered : 0 ∉ n.groups

variable {n : Node} {l stop : Cursor} {slots : Slots}

/-- The ends of a match are those of a way. -/
theorem saved_eq_some (hnumbered : 0 ∉ n.groups) (h : n.saved l = some slots) :
    slots.place? 0 = some l ∧
      ∃ u ∈ n.ways ⟨l, [(0, l)]⟩, slots = (1, u.place) :: u.slots ∧
        slots.place? 1 = some u.place := by
  obtain ⟨v, hv, rfl⟩ := Option.map_eq_some_iff.mp h
  obtain ⟨u, hu, rfl⟩ := List.mem_map.mp (List.mem_of_head? hv)
  have hkept : ∀ w : Way, ∀ u ∈ n.ways w, u.slots.place? 0 = w.slots.place? 0 := by
    intro w u hu
    refine (n.ways_induction (r := fun w u => u.slots.place? 0 = w.slots.place? 0) (fun _ => rfl)
      (fun h h' => h'.trans h) ?_ ?_ hu)
    · intro accepts w u hu
      obtain ⟨c, rest, -, -, rfl⟩ := Way.mem_take.mp hu
      rfl
    · intro index hindex w
      have hne : 2 * index ≠ 0 := fun heq => hnumbered (by
        obtain rfl : index = 0 := by omega
        exact hindex)
      exact ⟨Slots.place?_cons_ne hne, Slots.place?_cons_ne (Nat.succ_ne_zero _)⟩
  have hzero : u.slots.place? 0 = some l := hkept _ u hu
  exact ⟨hzero, u, hu, rfl, rfl⟩

namespace Linewise

theorem startsLine (h : n.Linewise) (hsaved : n.saved l = some slots) : l.StartsLine := by
  obtain ⟨body, rfl⟩ := h.starts
  by_contra hnot
  simp [saved, ways, Way.save, hnot] at hsaved

/-- Where a line starts, what is saved in the text is what is saved in the line alone. -/
theorem saved_inText (h : n.Linewise) (hl : l.StartsLine) :
    n.saved l =
      (n.saved (.start (Text.firstLine l.rest))).map fun slots =>
        slots.map fun s => (s.1, l.inText s.2) := by
  have hways := (capture 0 n).ways_inText h.inline h.productive hl
    (w := ⟨.start (Text.firstLine l.rest), []⟩) (Cursor.self_mem_onward _)
  have hplace : Way.inText l ⟨.start (Text.firstLine l.rest), []⟩ = ⟨l, []⟩ := rfl
  rw [hplace] at hways
  rw [saved, saved, hways, List.head?_map, Option.map_map, Option.map_map]
  rfl

/-- A match ends later in its line, and no other match starts before its end. -/
theorem apart (h : n.Linewise) (hsaved : n.saved l = some slots)
    (hstop : slots.place? 1 = some stop) :
    stop ∈ l.onward ∧ l.index < stop.index ∧
      ∀ m ∈ l.onward, l.index < m.index → m.index < stop.index → n.saved m = none := by
  have hl := h.startsLine hsaved
  rw [h.saved_inText hl] at hsaved
  obtain ⟨inLine, hinLine, rfl⟩ := Option.map_eq_some_iff.mp hsaved
  obtain ⟨-, u, hu, -, hplace⟩ := saved_eq_some h.numbered hinLine
  have hmem : u.place ∈ l.linePlaces := n.place_mem_onward hu
  rw [Slots.place?_inText, hplace] at hstop
  obtain rfl : l.inText u.place = stop := Option.some.inj hstop
  obtain ⟨heq, hle⟩ := Cursor.eq_forth_of_mem_linePlaces hmem
  have hindex : (l.inText u.place).index = l.index + u.place.index :=
    Cursor.forth_index (Nat.le_trans hle (List.takeWhile_prefix _).length_le)
  have hpositive : 0 < u.place.index := by
    have hlt := n.rest_length_lt_of_takesText h.takesText hu
    have hsum := (Cursor.index_of_mem_onward hmem).2
    simp only [Cursor.start] at hlt hsum
    omega
  refine ⟨Cursor.forth_mem_onward _ l, by omega, fun m hm hlater hearlier => ?_⟩
  obtain ⟨hforth, -⟩ := Cursor.eq_forth_of_mem_onward hm
  -- The place is one of the line and not its first one, so no line starts there.
  let inside : Cursor := (Cursor.start (Text.firstLine l.rest)).forth (m.index - l.index)
  have hinside : inside ∈ l.linePlaces := Cursor.forth_mem_onward _ _
  have hindexInside : inside.index = m.index - l.index := by
    have hbound : m.index - l.index ≤ (Text.firstLine l.rest).length := by omega
    exact (Cursor.forth_index hbound).trans (Nat.zero_add _)
  have hm' : m = l.inText inside := by rw [Cursor.inText, hindexInside, ← hforth]
  by_contra hsome
  obtain ⟨other, hother⟩ := Option.ne_none_iff_exists'.mp hsome
  obtain ⟨hbefore, hline⟩ := Cursor.before_inText hinside
  cases hb : inside.before with
  | none =>
      rw [(Cursor.inText_of_before hinside hb).1] at hm'
      exact absurd hlater (hm' ▸ Nat.lt_irrefl _)
  | some c =>
      have hbreak := (h.startsLine hother).isBreak_of_before
        (by rw [hm', hbefore, hb]; rfl : m.before = some c)
      rw [hline c hb] at hbreak
      cases hbreak

/-- After a match all others start at its end or later. -/
theorem filterMap_onward (h : n.Linewise) (hsaved : n.saved l = some slots)
    (hstop : slots.place? 1 = some stop) :
    l.onward.filterMap n.saved = slots :: stop.onward.filterMap n.saved := by
  obtain ⟨hlater, hlt, hnone⟩ := h.apart hsaved hstop
  cases hrest : l.rest with
  | nil =>
      rw [Cursor.onward_nil hrest, List.mem_singleton] at hlater
      rw [hlater] at hlt
      exact absurd hlt (Nat.lt_irrefl _)
  | cons c rest =>
      have hafter : stop ∈ (l.past c rest).onward := by
        rw [Cursor.onward_cons hrest] at hlater
        rcases List.mem_cons.mp hlater with rfl | hafter
        · exact absurd hlt (Nat.lt_irrefl _)
        · exact hafter
      obtain ⟨inside, hinside, hearlier⟩ := Cursor.onward_eq_append hafter
      have hnothing : inside.filterMap n.saved = [] := by
        refine List.filterMap_eq_nil_iff.mpr fun m hm => ?_
        obtain ⟨hmem, hindex⟩ := hearlier m hm
        have hpast : l.index < m.index := (Cursor.index_of_mem_onward hmem).1
        exact hnone m (Cursor.mem_onward_trans (Cursor.past_mem_onward hrest) hmem) hpast hindex
      rw [Cursor.onward_cons hrest, List.filterMap_cons_some hsaved, hinside,
        List.filterMap_append, hnothing, List.nil_append]

/-- The search for the next match of a linewise node passes over no match: there is no empty
one. -/
theorem nextSlots_eq (h : n.Linewise) {length : Nat} {k : Cursor}
    (hlength : k.rest.length ≤ length)
    (last : Option Nat) :
    nextSlots n.program length k last = k.onward.findSome? n.saved := by
  have hsearch : n.program.search length k = k.onward.findSome? n.saved :=
    n.search_program h.productive hlength
  rw [nextSlots, hsearch]
  cases hfound : k.onward.findSome? n.saved with
  | none => rfl
  | some slots =>
      obtain ⟨l, -, hsaved⟩ := List.exists_of_findSome?_eq_some hfound
      obtain ⟨hzero, u, -, -, hone⟩ := saved_eq_some h.numbered hsaved
      have hlt := (h.apart hsaved hone).2.1
      simp only [hzero, hone]
      rw [if_neg fun hempty => absurd hempty.1 (Nat.ne_of_lt hlt)]

/-- The matches of a linewise node in a text are found at its places one after the other. -/
theorem slotsFrom_eq (h : n.Linewise) {length fuel : Nat} {k : Cursor} (last : Option Nat)
    (hlength : k.rest.length ≤ length) (hfuel : k.rest.length < fuel) :
    slotsFrom n.program length fuel k last = k.onward.filterMap n.saved := by
  induction fuel generalizing k last with
  | zero => omega
  | succ fuel ih =>
      rw [slotsFrom, h.nextSlots_eq hlength]
      cases hfound : k.onward.findSome? n.saved with
      | none =>
          refine (List.filterMap_eq_nil_iff.mpr ?_).symm
          exact List.findSome?_eq_none_iff.mp hfound
      | some slots =>
          obtain ⟨l, hl, hsaved, hfrom⟩ := Cursor.findSome?_onward_eq_some hfound
          obtain ⟨-, u, -, -, hstop⟩ := saved_eq_some h.numbered hsaved
          obtain ⟨hlater, hlt, hnone⟩ := h.apart hsaved hstop
          have hmore : u.place.rest.length < l.rest.length := by
            have hsum := (Cursor.index_of_mem_onward hlater).2
            omega
          have hless := Cursor.rest_length_le hl
          rw [hfrom, h.filterMap_onward hsaved hstop]
          simp only [hstop]
          rw [ih _ (by omega) (by omega)]

/-! ## What is captured -/

/-- What is saved for the groups are places of the line. -/
theorem mem_linePlaces (n : Node) {w u : Way} (hu : u ∈ n.ways w) (hw : w.place ∈ l.linePlaces)
    (hslots : ∀ s ∈ w.slots, s.2 ∈ l.linePlaces) : ∀ s ∈ u.slots, s.2 ∈ l.linePlaces := by
  have hboth : u.place ∈ l.linePlaces ∧ ∀ s ∈ u.slots, s.2 ∈ l.linePlaces := by
    refine n.ways_induction (r := fun w u =>
        (w.place ∈ l.linePlaces ∧ ∀ s ∈ w.slots, s.2 ∈ l.linePlaces) →
          u.place ∈ l.linePlaces ∧ ∀ s ∈ u.slots, s.2 ∈ l.linePlaces)
      (fun _ h => h) (fun h h' hw => h' (h hw)) ?_ ?_ hu ⟨hw, hslots⟩
    · rintro accepts w u hu ⟨hplace, hslots⟩
      obtain ⟨c, rest, hrest, -, rfl⟩ := Way.mem_take.mp hu
      exact ⟨Cursor.mem_onward_trans hplace (Cursor.past_mem_onward hrest), hslots⟩
    · have hsave : ∀ slot (w : Way),
          (w.place ∈ l.linePlaces ∧ ∀ s ∈ w.slots, s.2 ∈ l.linePlaces) →
            (w.save slot).place ∈ l.linePlaces ∧
              ∀ s ∈ (w.save slot).slots, s.2 ∈ l.linePlaces := by
        rintro slot w ⟨hplace, hslots⟩
        exact ⟨hplace, List.forall_mem_cons.mpr ⟨hplace, hslots⟩⟩
      exact fun index _ w => ⟨hsave _ w, hsave _ w⟩
  exact hboth.2

/-- Between places of a line stands the same text as between those that they stand for. -/
theorem textTo_inText {k m : Cursor} (hk : k ∈ l.linePlaces) (hm : m ∈ l.linePlaces) :
    (l.inText k).textTo (l.inText m) = k.textTo m := by
  obtain ⟨after, hrest, -⟩ := Cursor.rest_inText hk
  have hline : (Text.firstLine l.rest).length ≤ l.rest.length :=
    (List.takeWhile_prefix _).length_le
  obtain ⟨-, hle⟩ := Cursor.eq_forth_of_mem_linePlaces hk
  obtain ⟨-, hle'⟩ := Cursor.eq_forth_of_mem_linePlaces hm
  have hlength : m.index - k.index ≤ k.rest.length := by
    have hsum := (Cursor.index_of_mem_onward hk).2
    simp only [Cursor.start] at hsum
    omega
  have hindex : (l.inText m).index - (l.inText k).index = m.index - k.index := by
    rw [Cursor.inText, Cursor.inText, Cursor.forth_index (Nat.le_trans hle hline),
      Cursor.forth_index (Nat.le_trans hle' hline)]
    omega
  rw [Cursor.textTo, hrest, hindex, List.take_append_of_le_length hlength]
  rfl

/-- So the groups hold the same. -/
theorem text?_inText (hslots : ∀ s ∈ slots, s.2 ∈ l.linePlaces) (index : Nat) :
    Slots.text? (slots.map fun s => (s.1, l.inText s.2)) index = slots.text? index := by
  have hmem : ∀ slot k, slots.place? slot = some k → k ∈ l.linePlaces := by
    intro slot k hk
    obtain ⟨s, hs, rfl⟩ := Option.map_eq_some_iff.mp hk
    exact hslots s (List.mem_of_find?_eq_some hs)
  simp only [Slots.text?, Slots.place?_inText]
  cases hk : slots.place? (2 * index) with
  | none => rfl
  | some k =>
      cases hm : slots.place? (2 * index + 1) with
      | none => rfl
      | some m =>
          exact congrArg (fun text => some (String.ofList text))
            (textTo_inText (hmem _ k hk) (hmem _ m hm))

end Linewise

/-- What is captured in a line that is taken by itself. -/
def onLine (n : Node) (captures : Nat) (line : List Char) : Option Match :=
  (n.saved (.start line)).map (·.toMatch captures)

/-- In a line that is taken by itself the groups hold what they hold on the first way. -/
theorem exists_onLine {line : List Char} {u : Way}
    (h : (n.ways ⟨.start line, [(0, .start line)]⟩).head? = some u) (captures : Nat) :
    ∃ m, n.onLine captures line = some m ∧
      ∀ index, 0 < index → index ≤ captures → m.text? index = u.slots.text? index := by
  have hsaved : n.saved (.start line) = some ((1, u.place) :: u.slots) := by
    have hways : (capture 0 n).ways ⟨.start line, []⟩ =
        (n.ways ⟨.start line, [(0, .start line)]⟩).map (Way.save 1) := rfl
    rw [saved, hways, List.head?_map, h]
    rfl
  refine ⟨_, congrArg (Option.map _) hsaved, fun index hpositive hindex => ?_⟩
  show Match.text? (Slots.toMatch _ captures) index = _
  rw [Slots.text?_toMatch, if_pos hindex, Slots.text?_cons_ne (by omega)]

/-- Without a way nothing is captured in a line. -/
theorem onLine_eq_none {line : List Char} (h : n.ways ⟨.start line, [(0, .start line)]⟩ = [])
    (captures : Nat) : n.onLine captures line = none := by
  have hways : (capture 0 n).ways ⟨.start line, []⟩ =
      (n.ways ⟨.start line, [(0, .start line)]⟩).map (Way.save 1) := rfl
  rw [onLine, saved, hways, h]
  rfl

/-- What is captured at a place is what is captured in the line that starts there. -/
theorem Linewise.texts_saved (h : n.Linewise) (captures : Nat) (l : Cursor) :
    (n.saved l).map (fun slots => (slots.toMatch captures).text?) =
      if (Look.lineStart true).holds l then
        (n.onLine captures (Text.firstLine l.rest)).map Match.text?
      else none := by
  split
  · rename_i hl
    rw [h.saved_inText hl, onLine, Option.map_map, Option.map_map]
    refine Option.map_congr fun slots hslots => ?_
    obtain ⟨v, hv, rfl⟩ := Option.map_eq_some_iff.mp hslots
    have hplaces := mem_linePlaces (capture 0 n) (List.mem_of_head? hv)
      (Cursor.self_mem_onward _) (by simp)
    funext index
    simp only [Function.comp, Slots.text?_toMatch, text?_inText hplaces]
  · rename_i hl
    cases hsaved : n.saved l with
    | none => rfl
    | some slots => exact absurd (h.startsLine hsaved) hl

/-- What the matches of a linewise node capture in a text is what is captured in its lines, each
taken by itself. -/
theorem Linewise.texts_all (h : n.Linewise) (captures : Nat) (text : String) :
    (Pattern.all ⟨n.program, captures⟩ text).map Match.text? =
      (Text.lines text.toList).filterMap fun line =>
        (n.onLine captures line).map Match.text? := by
  have hmatches : slotsFrom n.program text.toList.length (text.toList.length + 2)
      (.start text.toList) none = (Cursor.start text.toList).onward.filterMap n.saved :=
    h.slotsFrom_eq none (Nat.le_refl _) (Nat.lt_add_of_pos_right Nat.zero_lt_two)
  have hlines := (Cursor.start text.toList).lines_onward
  rw [if_pos (Cursor.startsLine_start _)] at hlines
  simp only [Pattern.all]
  rw [hmatches, List.map_map, List.map_filterMap]
  show _ = (Text.lines (Cursor.start text.toList).rest).filterMap _
  rw [← hlines, List.filterMap_map, List.filterMap_filter]
  refine List.filterMap_congr fun l _ => ?_
  exact h.texts_saved captures l

end Node

end Pattern

end ContainerLint
