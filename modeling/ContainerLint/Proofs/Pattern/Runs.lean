import ContainerLint.Proofs.Pattern.LineByLine
import ContainerLint.Proofs.Text.Figures

/-!
# Runs of characters

Patterns for the records of a linter are mostly runs: one character of a set or more, as many as
possible, held by a group. A run gives back its characters one by one (`Node.ways_run`), so what
comes after it is tried after the longest run first. If it cannot start at a character of the set,
only the longest run counts (`Node.ways_field`); else the longest run after which it matches does
(`Node.flatMap_ways_run`). A lazy run goes the other way round, from the shortest one on
(`Node.flatMap_ways_lazyRun`).
-/

namespace ContainerLint.Pattern

namespace Way

/-- The way some characters on. -/
def forth (n : Nat) (w : Way) : Way := ⟨w.place.forth n, w.slots⟩

/-- The way some characters on, which are held by a group. -/
def group (index n : Nat) (w : Way) : Way :=
  ⟨w.place.forth n, (2 * index + 1, w.place.forth n) :: (2 * index, w.place) :: w.slots⟩

variable {w : Way} {field after : List Char}

@[simp] theorem forth_slots (n : Nat) (w : Way) : (w.forth n).slots = w.slots := rfl

theorem forth_place_rest (n : Nat) (w : Way) : (w.forth n).place.rest = w.place.rest.drop n :=
  Cursor.forth_rest n w.place

/-- After what comes next comes what is after it. -/
theorem rest_forth (field : List Char) (h : w.place.rest = field ++ after) :
    (w.forth field.length).place.rest = after := by
  rw [forth_place_rest, h, List.drop_left]

theorem rest_group (h : w.place.rest = field ++ after) (index : Nat) :
    (w.group index field.length).place.rest = after :=
  rest_forth field h

/-- A group holds what was passed. -/
theorem text?_group (h : w.place.rest = field ++ after) (index : Nat) :
    (w.group index field.length).slots.text? index = some (String.ofList field) := by
  have htext : w.place.textTo (w.place.forth field.length) = field := by
    rw [Cursor.textTo_forth (by rw [h, List.length_append]; omega), h, List.take_left]
  simp [group, Slots.text?, Slots.place?, htext]

/-- The other groups hold what they held before. -/
theorem text?_group_ne {index other : Nat} (h : other ≠ index) (n : Nat) (w : Way) :
    (w.group index n).slots.text? other = w.slots.text? other := by
  rw [group, Slots.text?_cons_ne (by omega), Slots.text?_cons_ne (by omega)]

/-- The way `u` comes from `w` past a field that a group holds, to what comes after it. The other
groups hold what they held before. -/
structure Past (w u : Way) (index : Nat) (field after : List Char) : Prop where
  rest : u.place.rest = after
  text : u.slots.text? index = some (String.ofList field)
  kept : ∀ other, other ≠ index → u.slots.text? other = w.slots.text? other

theorem past_group (h : w.place.rest = field ++ after) (index : Nat) :
    w.Past (w.group index field.length) index field after where
  rest := rest_group h index
  text := text?_group h index
  kept := fun _ hother => text?_group_ne hother field.length w

/-- After a field the text goes on past what separates it from the next one. -/
theorem Past.forth {u : Way} {index : Nat} (separator : List Char)
    (h : w.Past u index field (separator ++ after)) :
    w.Past (u.forth separator.length) index field after :=
  ⟨rest_forth separator h.rest, h.text, h.kept⟩

/-- The groups hold some fields. -/
def Holds (w : Way) (fields : List (Nat × List Char)) : Prop :=
  ∀ f ∈ fields, w.slots.text? f.1 = some (String.ofList f.2)

/-- Past a field one more group holds its field. -/
theorem Past.holds {u : Way} {index : Nat} {fields : List (Nat × List Char)}
    (h : w.Past u index field after) (hfields : w.Holds fields)
    (hother : ∀ f ∈ fields, f.1 ≠ index) : u.Holds ((index, field) :: fields) := by
  refine List.forall_mem_cons.mpr ⟨h.text, fun f hf => ?_⟩
  rw [h.kept f.1 (hother f hf)]
  exact hfields f hf

theorem Past.holds_singleton {u : Way} {index : Nat} (h : w.Past u index field after) :
    u.Holds [(index, field)] :=
  List.forall_mem_singleton.mpr h.text

end Way

namespace Node

/-- One character of a set or more, as many as possible. -/
def run (chars : CharSet) : Node := .rep (.set chars) ⟨1, none⟩ true

variable {w : Way} {chars : CharSet} {field after : List Char} {next : Node}

/-- One character of a set or more, as few as possible. -/
def lazyRun (chars : CharSet) : Node := .rep (.set chars) ⟨1, none⟩ false

/-- One character or more: any number of those that come next. -/
theorem ways_rounds (chars : CharSet) (greedy : Bool) (w : Way) :
    (rep (.set chars) ⟨1, none⟩ greedy).ways w =
      Way.ordered greedy
        ((List.range (w.place.rest.takeWhile chars.contains).length).map fun i =>
          w.forth (i + 1)) := by
  have hways : (rep (.set chars) ⟨1, none⟩ greedy).ways w =
      (w.take chars.contains).flatMap fun u =>
      Way.upTo (Way.take chars.contains) greedy u.place.rest.length u := by
    simp only [ways, Way.power, List.flatMap_singleton']
  rw [hways]
  cases hrest : w.place.rest with
  | nil => cases greedy <;> simp [Way.take, Way.ordered, hrest]
  | cons c rest =>
      cases hc : chars.contains c with
      | false => cases greedy <;> simp [Way.take, Way.ordered, hrest, hc]
      | true =>
          have htake : w.take chars.contains = [⟨w.place.past c rest, w.slots⟩] := by
            simp [Way.take, hrest, hc]
          rw [htake, List.flatMap_singleton, Way.upTo_take _ greedy (Nat.le_refl _),
            List.takeWhile_cons_of_pos hc, List.length_cons]
          simp only [Way.forth, Cursor.forth_cons hrest, Cursor.past_rest]

/-- The longest run comes first, and then all shorter ones. -/
theorem ways_run (chars : CharSet) (w : Way) :
    (run chars).ways w =
      (List.range (w.place.rest.takeWhile chars.contains).length).reverse.map fun i =>
        w.forth (i + 1) := by
  rw [run, ways_rounds, Way.ordered, if_pos rfl, List.map_reverse]

/-- The shortest run comes first, and then all longer ones. -/
theorem ways_lazyRun (chars : CharSet) (w : Way) :
    (lazyRun chars).ways w =
      (List.range (w.place.rest.takeWhile chars.contains).length).map fun i =>
        w.forth (i + 1) := by
  rw [lazyRun, ways_rounds, Way.ordered, if_neg Bool.false_ne_true]

/-- If what comes after a run cannot follow a longer one, then the ways through this run come
first. -/
theorem flatMap_ways_run {onward : Way → List Way} {i : Nat}
    (hi : i < (w.place.rest.takeWhile chars.contains).length)
    (hlonger : ∀ j, i < j → j < (w.place.rest.takeWhile chars.contains).length →
      onward (w.forth (j + 1)) = []) :
    ((run chars).ways w).flatMap onward = onward (w.forth (i + 1)) ++
      (List.range i).reverse.flatMap fun j => onward (w.forth (j + 1)) := by
  obtain ⟨more, hmore⟩ := Nat.exists_eq_add_of_lt hi
  have hnothing : ((List.range more).map (i + 1 + ·)).reverse.flatMap
      (fun j => onward (w.forth (j + 1))) = [] := by
    refine List.flatMap_eq_nil_iff.mpr fun j hj => ?_
    simp only [List.mem_reverse, List.mem_map, List.mem_range] at hj
    obtain ⟨k, hk, rfl⟩ := hj
    exact hlonger _ (by omega) (by omega)
  rw [ways_run, hmore, List.flatMap_map, Nat.add_right_comm, List.range_add, List.reverse_append,
    List.flatMap_append, hnothing, List.nil_append, List.range_succ, List.reverse_append]
  rfl

/-- If what comes after a lazy run cannot follow a shorter one, then the ways through this run
come first. -/
theorem flatMap_ways_lazyRun {onward : Way → List Way} {i : Nat}
    (hi : i < (w.place.rest.takeWhile chars.contains).length)
    (hshorter : ∀ j, j < i → onward (w.forth (j + 1)) = []) :
    ∃ longer, ((lazyRun chars).ways w).flatMap onward = onward (w.forth (i + 1)) ++ longer := by
  obtain ⟨more, hmore⟩ := Nat.exists_eq_add_of_lt hi
  have hnothing : (List.range i).flatMap (fun j => onward (w.forth (j + 1))) = [] :=
    List.flatMap_eq_nil_iff.mpr fun j hj => hshorter j (List.mem_range.mp hj)
  rw [ways_lazyRun, hmore, List.flatMap_map, Nat.add_assoc, List.range_add, List.flatMap_append,
    hnothing, List.nil_append, List.range_succ_eq_map, List.map_cons,
    List.flatMap_cons]
  exact ⟨_, rfl⟩

/-- The run of the characters of a set at the start of a text. -/
theorem takeWhile_field (hfield : ∀ c ∈ field, chars.contains c = true)
    (hafter : ∀ c, after.head? = some c → chars.contains c = false) :
    (field ++ after).takeWhile chars.contains = field := by
  rw [List.takeWhile_append_of_pos hfield]
  cases after with
  | nil => exact List.append_nil _
  | cons c after => rw [List.takeWhile_cons_of_neg (by simp [hafter c rfl]), List.append_nil]

/-- If what comes after a run cannot start with a character of the set, only the longest run
counts. -/
theorem flatMap_ways_field {onward : Way → List Way} (hrest : w.place.rest = field ++ after)
    (hne : field ≠ []) (hfield : ∀ c ∈ field, chars.contains c = true)
    (hafter : ∀ c, after.head? = some c → chars.contains c = false)
    (honward : ∀ (u : Way) c, u.place.rest.head? = some c → chars.contains c = true →
      onward u = []) :
    ((run chars).ways w).flatMap onward = onward (w.forth field.length) := by
  have hpositive : 0 < field.length := List.length_pos_iff.mpr hne
  have hrun : (w.place.rest.takeWhile chars.contains).length = field.length := by
    rw [hrest, takeWhile_field hfield hafter]
  have hshorter : (List.range (field.length - 1)).reverse.flatMap
      (fun j => onward (w.forth (j + 1))) = [] := by
    refine List.flatMap_eq_nil_iff.mpr fun j hj => ?_
    have hj : j + 1 < field.length := by
      rw [List.mem_reverse, List.mem_range] at hj
      omega
    refine honward _ field[j + 1] ?_ (hfield _ (List.getElem_mem hj))
    rw [Way.forth_place_rest, hrest, List.head?_drop, List.getElem?_append_left hj,
      List.getElem?_eq_getElem hj]
  rw [flatMap_ways_run (i := field.length - 1) (by omega) (fun j _ _ => by omega), hshorter,
    List.append_nil, Nat.sub_add_cancel hpositive]

/-- A group that holds a run, up to what comes after it. -/
theorem ways_field (index : Nat) (hrest : w.place.rest = field ++ after) (hne : field ≠ [])
    (hfield : ∀ c ∈ field, chars.contains c = true)
    (hafter : ∀ c, after.head? = some c → chars.contains c = false)
    (hnext : ∀ (u : Way) c, u.place.rest.head? = some c → chars.contains c = true →
      next.ways u = []) :
    (cat (capture index (run chars)) next).ways w = next.ways (w.group index field.length) := by
  rw [ways, ways, List.flatMap_map]
  exact flatMap_ways_field (w := w.save (2 * index)) hrest hne hfield hafter
    fun u c hu hc => hnext (u.save (2 * index + 1)) c hu hc

/-- A group that holds one character. -/
theorem ways_char (index : Nat) {c : Char} (hrest : w.place.rest = c :: after)
    (hc : chars.contains c = true) :
    (cat (capture index (set chars)) next).ways w = next.ways (w.group index [c].length) := by
  have htake : (w.save (2 * index)).take chars.contains =
      [⟨w.place.past c after, (2 * index, w.place) :: w.slots⟩] := by
    simp [Way.take, Way.save, hrest, hc]
  rw [ways, ways, List.flatMap_map, ways, htake, List.flatMap_singleton, List.length_singleton,
    Way.group, Cursor.forth_cons hrest]
  rfl

/-- A group that holds one character and then a run, up to what comes after it. -/
theorem ways_charField (index : Nat) {first : CharSet} {c : Char}
    (hrest : w.place.rest = c :: (field ++ after)) (hc : first.contains c = true)
    (hne : field ≠ [])
    (hfield : ∀ c ∈ field, chars.contains c = true)
    (hafter : ∀ c, after.head? = some c → chars.contains c = false)
    (hnext : ∀ (u : Way) c, u.place.rest.head? = some c → chars.contains c = true →
      next.ways u = []) :
    (cat (capture index (cat (set first) (run chars))) next).ways w =
      next.ways (w.group index (c :: field).length) := by
  have htake : (w.save (2 * index)).take first.contains =
      [⟨w.place.past c (field ++ after), (2 * index, w.place) :: w.slots⟩] := by
    simp [Way.take, Way.save, hrest, hc]
  rw [ways, ways, List.flatMap_map, ways, ways, htake, List.flatMap_singleton, List.length_cons,
    Way.group, Cursor.forth_cons hrest]
  exact flatMap_ways_field
    (w := ⟨w.place.past c (field ++ after), (2 * index, w.place) :: w.slots⟩)
    rfl hne hfield hafter fun u c hu hc => hnext (u.save (2 * index + 1)) c hu hc

/-- A literal text that comes next is passed. -/
theorem ways_literal (text : List Char) (hrest : w.place.rest = text ++ after) :
    (cat (literal text) next).ways w = next.ways (w.forth text.length) := by
  have hprefix : text.isPrefixOf w.place.rest = true :=
    List.isPrefixOf_iff_prefix.mpr ⟨after, hrest.symm⟩
  rw [ways, ways, Way.literal_eq, if_pos hprefix, List.flatMap_singleton]
  rfl

/-- A literal text has no way where it does not come next. -/
theorem ways_literal_of_not_prefix {text : List Char} (h : ¬ text <+: w.place.rest) :
    (cat (literal text) next).ways w = [] := by
  rw [ways, ways, Way.literal_eq, if_neg (mt List.isPrefixOf_iff_prefix.mp h), List.flatMap_nil]

/-- A literal text has no way where another character comes next. -/
theorem ways_literal_of_ne {c d : Char} {text : List Char} (hrest : w.place.rest.head? = some d)
    (hne : c ≠ d) : (cat (literal (c :: text)) next).ways w = [] := by
  obtain ⟨rest, hrest⟩ := List.head?_eq_some_iff.mp hrest
  refine ways_literal_of_not_prefix fun hprefix => hne ?_
  rw [hrest] at hprefix
  exact (List.cons_prefix_cons.mp hprefix).1

/-- A literal text that may be left out is passed if it comes next, and else left out. -/
theorem ways_optional (text : List Char) (w : Way) :
    (cat (rep (literal text) ⟨0, some 1⟩ true) next).ways w =
      (if text.isPrefixOf w.place.rest then next.ways (w.forth text.length) else []) ++
        next.ways w := by
  have hways : (rep (literal text) ⟨0, some 1⟩ true).ways w = Way.literal text w ++ [w] := by
    simp [ways, Way.power, Way.upTo, Way.prefer]
  rw [ways, hways, Way.literal_eq, List.flatMap_append, List.flatMap_singleton]
  cases text.isPrefixOf w.place.rest with
  | true => exact congrArg (· ++ _) (List.flatMap_singleton ..)
  | false => rfl

/-- A group that holds a run, and a literal text after it that does not start with a character of
the set. -/
theorem ways_fieldUpTo (index : Nat) (c : Char) (text : List Char) (next : Node)
    (hc : chars.contains c = false) (hrest : w.place.rest = field ++ (c :: text ++ after))
    (hne : field ≠ []) (hfield : ∀ d ∈ field, chars.contains d = true) :
    ∃ u, (cat (capture index (run chars)) (cat (literal (c :: text)) next)).ways w = next.ways u ∧
      w.Past u index field after := by
  have hother : ∀ d, chars.contains d = true → c ≠ d := by
    rintro d hd rfl
    rw [hc] at hd
    cases hd
  have hpast := Way.past_group hrest index
  refine ⟨_, ?_, hpast.forth (c :: text)⟩
  rw [ways_field index hrest hne hfield (fun d hd => by cases hd; exact hc)
    (fun u d hu hd => ways_literal_of_ne hu (hother d hd)), ways_literal (c :: text) hpast.rest]

/-- A group that holds a printed number, and a literal text after it that does not start with a
digit. -/
theorem ways_number (index : Nat) {n : Nat} (c : Char) (text : List Char)
    (hc : Text.decimals.contains c = false)
    (hrest : w.place.rest = Nat.toDigits 10 n ++ (c :: text ++ after)) :
    ∃ u, (cat (capture index (run Text.decimals)) (cat (literal (c :: text)) next)).ways w =
      next.ways u ∧ w.Past u index (Nat.toDigits 10 n) after :=
  ways_fieldUpTo index c text next hc hrest Nat.toDigits_ne_nil
    (Text.decimals_contains_toDigits n)

/-- A lazy run ends before the first place where the literal text after it can start. -/
theorem ways_lazyField (c : Char) (text : List Char) (next : Node)
    (hrest : w.place.rest = field ++ (c :: text ++ after)) (hne : field ≠ [])
    (hfield : ∀ d ∈ field, chars.contains d = true) (hc : c ∉ field) :
    ∃ longer, (cat (lazyRun chars) (cat (literal (c :: text)) next)).ways w =
      next.ways ((w.forth field.length).forth (c :: text).length) ++ longer := by
  have hpositive : 0 < field.length := List.length_pos_iff.mpr hne
  have hrun : field.length ≤ (w.place.rest.takeWhile chars.contains).length := by
    rw [hrest, List.takeWhile_append_of_pos hfield, List.length_append]
    exact Nat.le_add_right _ _
  have hshorter : ∀ j, j < field.length - 1 →
      (cat (literal (c :: text)) next).ways (w.forth (j + 1)) = [] := by
    intro j hj
    have hj : j + 1 < field.length := by omega
    refine ways_literal_of_ne (d := field[j + 1]) ?_ fun heq => hc (heq ▸ List.getElem_mem hj)
    rw [Way.forth_place_rest, hrest, List.head?_drop, List.getElem?_append_left hj,
      List.getElem?_eq_getElem hj]
  have hi : field.length - 1 < (w.place.rest.takeWhile chars.contains).length := by omega
  obtain ⟨longer, hways⟩ := flatMap_ways_lazyRun hi hshorter
  refine ⟨longer, ?_⟩
  rw [ways, hways, Nat.sub_add_cancel hpositive, ways_literal _ (Way.rest_forth field hrest)]

/-- A lazy run has no way if the literal text after it cannot start anywhere. -/
theorem ways_lazyField_eq_nil {c : Char} {text : List Char} (h : c ∉ w.place.rest) :
    (cat (lazyRun chars) (cat (literal (c :: text)) next)).ways w = [] := by
  rw [ways, ways_lazyRun, List.flatMap_map]
  refine List.flatMap_eq_nil_iff.mpr fun j _ => ways_literal_of_not_prefix fun hnext => h ?_
  rw [Way.forth_place_rest] at hnext
  exact List.mem_of_mem_drop (hnext.subset List.mem_cons_self)

/-! ## Space

The word characters of all scripts take most of the space of a pattern, and long to count. They
are counted once, and what else a pattern has is added to that. -/

theorem setFootprint_wordChars : setFootprint Text.wordChars ≤ 50000 := by decide +kernel

theorem footprint_cat_le {a b : Node} {m n : Nat} (ha : a.footprint ≤ m) (hb : b.footprint ≤ n) :
    (cat a b).footprint ≤ m + n :=
  Nat.add_le_add ha hb

theorem footprint_after {a b : Node} {n : Nat} (h : b.footprint ≤ n) :
    (cat a b).footprint ≤ a.footprint + n :=
  footprint_cat_le (Nat.le_refl _) h

theorem footprint_capture_le (index : Nat) {a : Node} {n : Nat} (h : a.footprint ≤ n) :
    (capture index a).footprint ≤ n + 64 :=
  Nat.add_le_add_right h 64

theorem footprint_run_le {n : Nat} (h : setFootprint chars ≤ n) :
    (run chars).footprint ≤ n + 40 := by
  have hfootprint : (run chars).footprint = 1 * setFootprint chars + 40 := rfl
  omega

/-! ## Fields in a line -/

/-- At the start of a text a line starts. -/
theorem ways_lineStart (body : Node) (text : List Char) (slots : Slots) :
    (cat (look (.lineStart true)) body).ways ⟨.start text, slots⟩ =
      body.ways ⟨.start text, slots⟩ := by
  have hstart : (Look.lineStart true).holds (Cursor.start text) = true := rfl
  rw [ways, ways, if_pos hstart, List.flatMap_singleton]

/-- In a line that is taken by itself the groups hold the fields that they hold on the first
way. -/
theorem exists_onLine_of_holds {n : Node} {line : List Char} {u : Way}
    {fields : List (Nat × List Char)} (captures : Nat)
    (h : (n.ways ⟨.start line, [(0, .start line)]⟩).head? = some u) (hholds : u.Holds fields)
    (hgroups : ∀ f ∈ fields, 0 < f.1 ∧ f.1 ≤ captures) :
    ∃ m, n.onLine captures line = some m ∧
      ∀ f ∈ fields, m.text? f.1 = some (String.ofList f.2) := by
  obtain ⟨m, hm, htexts⟩ := exists_onLine h captures
  refine ⟨m, hm, fun f hf => ?_⟩
  obtain ⟨hpositive, hbound⟩ := hgroups f hf
  rw [htexts f.1 hpositive hbound]
  exact hholds f hf

/-! ## To the end of the line -/

/-- Where a character of the line comes next, the line does not end. -/
theorem ways_lineEnd_of_char {c : Char} (hrest : w.place.rest.head? = some c)
    (hc : Text.isBreak c = false) : (look (.lineEnd true)).ways w = [] := by
  obtain ⟨rest, hrest⟩ := List.head?_eq_some_iff.mp hrest
  simp only [Text.isBreak, Bool.or_eq_false_iff, decide_eq_false_iff_not] at hc
  simp [ways, Look.holds, hrest, hc]

/-- A group that holds the rest of a line that is taken by itself. -/
theorem ways_toLineEnd (index : Nat) (hrest : w.place.rest = field) (hne : field ≠ [])
    (hline : ∀ c ∈ field, Text.isBreak c = false) :
    ∃ u, (cat (capture index (run lineChars)) (look (.lineEnd true))).ways w = [u] ∧
      w.Past u index field [] := by
  have hbreak : ∀ c, lineChars.contains c = true → Text.isBreak c = false := by
    intro c hc
    rwa [lineChars_contains, Bool.not_eq_true'] at hc
  have hpast := Way.past_group (hrest.trans (List.append_nil _).symm) index
  refine ⟨_, ?_, hpast⟩
  rw [ways_field index (hrest.trans (List.append_nil _).symm) hne
    (fun c hc => by rw [lineChars_contains, hline c hc]; rfl) (by simp)
    (fun u c hu hc => ways_lineEnd_of_char hu (hbreak c hc))]
  simp [ways, Look.holds, hpast.rest]

/-- Nothing of the line is left for such a group where the line ends. -/
theorem ways_toLineEnd_nil (index : Nat) (h : w.place.rest = []) :
    (cat (capture index (run lineChars)) (look (.lineEnd true))).ways w = [] := by
  have hsave : (w.save (2 * index)).place.rest = [] := h
  rw [ways, ways, ways_run, hsave]
  rfl

/-- The last character of a line that is taken by itself. -/
theorem ways_lastChar (c : Char) (hline : ∀ d ∈ w.place.rest, Text.isBreak d = false) :
    (cat (literal [c]) (look (.lineEnd true))).ways w =
      if w.place.rest = [c] then [w.forth [c].length] else [] := by
  split
  · rename_i hrest
    have hnothing : w.place.rest = [c] ++ [] := hrest
    rw [ways_literal [c] hnothing, ways, Look.holds, Way.rest_forth [c] hnothing]
    rfl
  · rename_i hnot
    by_cases hprefix : [c] <+: w.place.rest
    · obtain ⟨after, hrest⟩ := hprefix
      have hafter := Way.rest_forth [c] hrest.symm
      cases after with
      | nil => exact absurd hrest.symm hnot
      | cons d after =>
          rw [ways_literal [c] hrest.symm]
          exact ways_lineEnd_of_char (congrArg List.head? hafter) (hline d (by simp [← hrest]))
    · exact ways_literal_of_not_prefix hprefix

/-- Any number of characters of a set, as many as possible. -/
def star (chars : CharSet) : Node := .rep (.set chars) ⟨0, none⟩ true

/-- All characters of the set come first, and then fewer and fewer, down to none. -/
theorem ways_star (chars : CharSet) (w : Way) :
    (star chars).ways w =
      (List.range ((w.place.rest.takeWhile chars.contains).length + 1)).reverse.map w.forth := by
  have hways : (star chars).ways w =
      Way.upTo (Way.take chars.contains) true w.place.rest.length w := by
    simp only [star, ways, Way.power, List.flatMap_singleton]
  rw [hways, Way.upTo_take _ true (Nat.le_refl _), Way.ordered, if_pos rfl, List.map_reverse]
  rfl

/-- A group that holds a line up to its last character, whatever other places that character has
in the line. -/
theorem ways_toLastChar (index : Nat) (c : Char) (hrest : w.place.rest = field ++ [c])
    (hline : ∀ d ∈ field ++ [c], Text.isBreak d = false) :
    ∃ u, (cat (capture index (star lineChars))
        (cat (literal [c]) (look (.lineEnd true)))).ways w = [u] ∧ w.Past u index field [] := by
  have hpast := Way.past_group hrest index
  refine ⟨_, ?_, hpast.forth [c]⟩
  have hall : (w.place.rest.takeWhile lineChars.contains).length = field.length + 1 := by
    have hchars : ∀ d ∈ w.place.rest, lineChars.contains d = true := by
      intro d hd
      rw [lineChars_contains, hline d (hrest ▸ hd)]
      rfl
    have hwhole : (w.place.rest ++ []).takeWhile lineChars.contains = w.place.rest :=
      takeWhile_field hchars (by simp)
    rw [List.append_nil] at hwhole
    rw [hwhole, hrest, List.length_append, List.length_singleton]
  -- Where the group does not end with the field, it is not the last character that comes next.
  have honward : ∀ n, (cat (literal [c]) (look (.lineEnd true))).ways (w.group index n) =
      if n = field.length then [(w.group index n).forth [c].length] else [] := by
    intro n
    have hdrop : (w.group index n).place.rest = (field ++ [c]).drop n := by
      rw [← hrest]
      exact Way.forth_place_rest n w
    rw [ways_lastChar c (fun d hd => hline d (List.mem_of_mem_drop (hdrop ▸ hd))), hdrop]
    refine if_congr ⟨fun h => ?_, fun h => h ▸ List.drop_left⟩ rfl rfl
    have hlength := congrArg List.length h
    simp only [List.length_drop, List.length_append, List.length_singleton] at hlength
    omega
  have hways : (cat (capture index (star lineChars))
      (cat (literal [c]) (look (.lineEnd true)))).ways w =
        (List.range (field.length + 2)).reverse.flatMap fun n =>
          (cat (literal [c]) (look (.lineEnd true))).ways (w.group index n) := by
    have hsave : (w.save (2 * index)).place.rest = w.place.rest := rfl
    rw [ways, ways, ways_star, hsave, hall, List.map_map, List.flatMap_map]
    rfl
  have hshorter : (List.range field.length).reverse.flatMap (fun n =>
      (cat (literal [c]) (look (.lineEnd true))).ways (w.group index n)) = [] := by
    refine List.flatMap_eq_nil_iff.mpr fun n hn => ?_
    rw [List.mem_reverse, List.mem_range] at hn
    rw [honward, if_neg (Nat.ne_of_lt hn)]
  have hlonger : (cat (literal [c]) (look (.lineEnd true))).ways
      (w.group index (field.length + 1)) = [] := by
    rw [honward, if_neg (Nat.succ_ne_self _)]
  rw [hways, List.range_succ, List.range_succ, List.reverse_concat, List.reverse_concat,
    List.flatMap_cons, List.flatMap_cons, hlonger, hshorter, honward, if_pos rfl]
  rfl

end Node

end ContainerLint.Pattern
