import ContainerLint.Pattern.Match
import ContainerLint.Proofs.Pattern.Memory
import ContainerLint.Proofs.Pattern.Ways

/-!
# Programs go the ways of their patterns

The code of a node, wherever it stands in a program, leads from its first address to the address
after its last one along the ways of the node (`followed`). So a search for a pattern gives the
first way from the leftmost place that has one (`search_program`), provided that what the pattern
repeats without bound takes text.
-/

namespace ContainerLint.Pattern

/-- The thread that has come to an address on a way. -/
def Way.thread (address : Nat) (w : Way) : Thread := ⟨address, w.place, w.slots⟩

namespace Program

variable {p : Program} {a b c base stop : Nat} {w u : Way} {ws vs : List Way}
  {first second : List Instruction} {i : Instruction} {greedy : Bool}
  {part : Way → List Way} {code : Nat → List Instruction} {size : Nat}

/-- The program holds some code at an address. -/
def Holds (p : Program) (base : Nat) (code : List Instruction) : Prop :=
  ∀ i, i < code.length → p.instructions[base + i]? = code[i]?

theorem Holds.left (h : p.Holds base (first ++ second)) : p.Holds base first := by
  intro i hi
  rw [h i (by rw [List.length_append]; omega), List.getElem?_append_left hi]

theorem Holds.right (h : p.Holds base (first ++ second)) :
    p.Holds (base + first.length) second := by
  intro i hi
  rw [Nat.add_assoc, h (first.length + i) (by rw [List.length_append]; omega),
    List.getElem?_append_right (Nat.le_add_right ..), Nat.add_sub_cancel_left]

theorem Holds.head (h : p.Holds base (i :: second)) : p.instructions[base]? = some i := by
  simpa using h 0 (Nat.zero_lt_succ _)

theorem Holds.tail (h : p.Holds base (i :: second)) : p.Holds (base + 1) second := by
  have hboth : p.Holds base ([i] ++ second) := h
  exact hboth.right

/-! ## Where instructions lead -/

theorem advance_char (w : Way) (a : Nat) (d : Char) :
    advance (w.thread a) (.char d) = (w.take (d = ·)).map (Way.thread (a + 1)) := by
  cases hrest : w.place.rest with
  | nil => simp [advance, Way.thread, Way.take, hrest]
  | cons c rest => by_cases hc : d = c <;> simp [advance, Way.thread, Way.take, hrest, hc]

theorem advance_set (w : Way) (a : Nat) (chars : CharSet) :
    advance (w.thread a) (.set chars) = (w.take chars.contains).map (Way.thread (a + 1)) := by
  cases hrest : w.place.rest with
  | nil => simp [advance, Way.thread, Way.take, hrest]
  | cons c rest =>
      cases hc : chars.contains c <;> simp [advance, Way.thread, Way.take, hrest, hc]

theorem advance_look (w : Way) (a : Nat) (l : Look) :
    advance (w.thread a) (.look l) =
      (if l.holds w.place then [w] else []).map (Way.thread (a + 1)) := by
  cases hholds : l.holds w.place <;> simp [advance, Way.thread, hholds]

/-! ## Going ways -/

/-- A thread at an address does what the threads at another address do that stand for some ways
onward. -/
def Goes (p : Program) (a : Nat) (w : Way) (ws : List Way) (b : Nat) : Prop :=
  ∀ stack n result, p.Resolves n (ws.map (Way.thread b) ++ stack) result →
    ∃ m, p.Resolves m (w.thread a :: stack) result

/-- The end of a stack may be exchanged for one of which the same comes. -/
theorem Resolves.exchange (before : List Thread) {old new : List Thread} {n : Nat}
    {result : Option Slots} (h : p.Resolves n (before ++ old) result)
    (hnew : ∀ m, p.Resolves m old result → ∃ m, p.Resolves m new result) :
    ∃ m, p.Resolves m (before ++ new) result := by
  rcases h.split before with ⟨slots, rfl, hbefore⟩ | ⟨k, l, -, hbefore, hold⟩
  · exact ⟨n, hbefore.append_some new⟩
  · obtain ⟨m, hm⟩ := hnew l hold
    exact ⟨k + m, hbefore.append hm⟩

namespace Goes

theorem refl (p : Program) (a : Nat) (w : Way) : p.Goes a w [w] a :=
  fun _ n _ h => ⟨n, h⟩

/-- One instruction goes where it advances to. -/
theorem instruction (hi : p.instructions[a]? = some i) (hnot : i ≠ .accept)
    (hadvance : ∀ stack n result, p.Resolves n (ws.map (Way.thread b) ++ stack) result →
      ∃ m, p.Resolves m (advance (w.thread a) i ++ stack) result) : p.Goes a w ws b := by
  intro stack n result h
  obtain ⟨m, hm⟩ := hadvance stack n result h
  exact ⟨m + 1, .step hi hnot hm⟩

/-- An instruction that advances to the next address goes the ways that it advances to. -/
theorem single (hi : p.instructions[a]? = some i) (hnot : i ≠ .accept)
    (hadvance : advance (w.thread a) i = ws.map (Way.thread (a + 1))) : p.Goes a w ws (a + 1) :=
  instruction hi hnot fun _ n _ h => ⟨n, hadvance ▸ h⟩

/-- Ways onward can be gone on. -/
theorem flatMap {onward : Way → List Way} (h : p.Goes a w ws b)
    (honward : ∀ u ∈ ws, p.Goes b u (onward u) c) : p.Goes a w (ws.flatMap onward) c := by
  intro stack n result hresolves
  have hall : ∀ {n}, p.Resolves n ((ws.flatMap onward).map (Way.thread c) ++ stack) result →
      ∃ m, p.Resolves m (ws.map (Way.thread b) ++ stack) result := by
    clear h hresolves
    induction ws with
    | nil => exact fun h => ⟨_, h⟩
    | cons u ws ih =>
        intro n h
        rw [List.flatMap_cons, List.map_append, List.append_assoc] at h
        obtain ⟨m, hm⟩ := honward u List.mem_cons_self _ _ _ h
        exact Resolves.exchange [u.thread b] hm fun _ hrest =>
          ih (fun v hv => honward v (List.mem_cons_of_mem _ hv)) hrest
  obtain ⟨m, hm⟩ := hall hresolves
  exact h stack m result hm

theorem jump (hi : p.instructions[a]? = some (.jump b)) (h : p.Goes b w ws c) :
    p.Goes a w ws c :=
  instruction hi (by simp) fun stack n result hresolves => h stack n result hresolves

/-- A choice goes the ways of its first target and then those of its second. -/
theorem split {x y : Nat} (hi : p.instructions[a]? = some (.split x y)) (hx : p.Goes x w ws b)
    (hy : p.Goes y w vs b) : p.Goes a w (ws ++ vs) b := by
  refine instruction hi (by simp) fun stack n result h => ?_
  rw [List.map_append, List.append_assoc] at h
  obtain ⟨m, hm⟩ := h.exchange _ fun k hk => hy stack k result hk
  exact hx _ m result hm

/-- A choice to enter a part or to go past it. -/
theorem enter {inside : Nat} (hi : p.instructions[a]? = some (Instruction.enter greedy inside b))
    (hinside : p.Goes inside w ws b) : p.Goes a w (Way.prefer greedy ws [w]) b := by
  cases greedy with
  | true => exact split hi hinside (refl p b w)
  | false => exact split hi (refl p b w) hinside

theorem char {d : Char} (hi : p.instructions[a]? = some (.char d)) :
    p.Goes a w (w.take (d = ·)) (a + 1) :=
  single hi (by simp) (advance_char w a d)

theorem set {chars : CharSet} (hi : p.instructions[a]? = some (.set chars)) :
    p.Goes a w (w.take chars.contains) (a + 1) :=
  single hi (by simp) (advance_set w a chars)

theorem look {l : Look} (hi : p.instructions[a]? = some (.look l)) :
    p.Goes a w (if l.holds w.place then [w] else []) (a + 1) :=
  single hi (by simp) (advance_look w a l)

theorem save {slot : Nat} (hi : p.instructions[a]? = some (.save slot)) :
    p.Goes a w [w.save slot] (a + 1) :=
  single hi (by simp) rfl

theorem literal {text : List Char} (h : p.Holds base (text.map .char)) (w : Way) :
    p.Goes base w (Way.literal text w) (base + text.length) := by
  induction text generalizing base w with
  | nil => exact refl p base w
  | cons d text ih =>
      have hrest := (char (w := w) h.head).flatMap fun u _ => ih h.tail u
      rw [List.length_cons, Nat.add_comm text.length, ← Nat.add_assoc]
      exact hrest

/-! ## Repetitions -/

/-- Copies of a part, one after the other. -/
theorem copies
    (hpart : ∀ base, p.Holds base (code base) → ∀ w, p.Goes base w (part w) (base + size))
    (hsize : ∀ base, (code base).length = size) (n : Nat)
    (h : p.Holds base (Node.copies code size n base)) (w : Way) :
    p.Goes base w (Way.power part n w) (base + n * size) := by
  induction n generalizing base w with
  | zero => simpa [Way.power] using refl p base w
  | succ n ih =>
      have hlater := h.right
      rw [hsize] at hlater
      have hall := (hpart base h.left w).flatMap fun u _ => ih hlater u
      rw [Nat.succ_mul, Nat.add_comm (n * size), ← Nat.add_assoc]
      exact hall

/-- Copies of a part, each of which may be left out with all later ones. -/
theorem options
    (hpart : ∀ base, p.Holds base (code base) → ∀ w, p.Goes base w (part w) (base + size))
    (hsize : ∀ base, (code base).length = size) (n : Nat) (hstop : base + n * (size + 1) = stop)
    (h : p.Holds base (Node.options code size greedy stop n base)) (w : Way) :
    p.Goes base w (Way.upTo part greedy n w) stop := by
  induction n generalizing base w with
  | zero =>
      rw [Nat.zero_mul, Nat.add_zero] at hstop
      subst hstop
      exact refl p base w
  | succ n ih =>
      have hlater := h.tail.right
      rw [hsize] at hlater
      have hrest : base + 1 + size + n * (size + 1) = stop := by
        rw [← hstop, Nat.succ_mul]
        omega
      exact enter h.head ((hpart _ h.tail.left w).flatMap fun u _ => ih hrest hlater u)

/-- A part that takes text and leads back to the choice before it is gone any number of times. -/
theorem loop {inside : Nat}
    (hi : p.instructions[a]? = some (Instruction.enter greedy inside stop))
    (hpart : ∀ w, p.Goes inside w (part w) a)
    (htakes : ∀ w, ∀ u ∈ part w, u.place.rest.length < w.place.rest.length) (w : Way) :
    p.Goes a w (Way.upTo part greedy w.place.rest.length w) stop := by
  generalize hn : w.place.rest.length = n
  induction n using Nat.strongRecOn generalizing w with
  | ind n ih =>
      have hround : p.Goes inside w
          ((part w).flatMap fun u => Way.upTo part greedy u.place.rest.length u) stop :=
        (hpart w).flatMap fun u hu => ih _ (hn ▸ htakes w u hu) u rfl
      have hall := enter hi hround
      cases n with
      | zero =>
          rw [Way.eq_nil_of_takes htakes hn] at hall
          simpa [Way.prefer, Way.upTo] using hall
      | succ n =>
          have hrounds : ((part w).flatMap fun u => Way.upTo part greedy u.place.rest.length u) =
              (part w).flatMap (Way.upTo part greedy n) := by
            refine List.flatMap_congr fun u hu => ?_
            have hlt := htakes w u hu
            exact Way.upTo_eq_of_le htakes (Nat.le_refl _) (by omega)
          rw [Way.upTo, ← hrounds]
          exact hall

end Goes

end Program

namespace Node

variable {p : Program}

theorem length_copies {code : Nat → List Instruction} {size : Nat}
    (hsize : ∀ base, (code base).length = size) (n base : Nat) :
    (copies code size n base).length = n * size := by
  induction n generalizing base with
  | zero => simp [copies]
  | succ n ih => rw [copies, List.length_append, hsize, ih, Nat.succ_mul, Nat.add_comm]

theorem length_options {code : Nat → List Instruction} {size : Nat}
    (hsize : ∀ base, (code base).length = size) (greedy : Bool) (stop n base : Nat) :
    (options code size greedy stop n base).length = n * (size + 1) := by
  induction n generalizing base with
  | zero => simp [options]
  | succ n ih =>
      rw [options, List.length_cons, List.length_append, hsize, ih, Nat.succ_mul]
      omega

/-- The code of a node has as many instructions as is said. -/
theorem length_code (n : Node) (base : Nat) : (n.code base).length = n.size := by
  induction n generalizing base with
  | empty | set | look => rfl
  | literal text => simp [code, size]
  | rep sub count greedy ih =>
      obtain ⟨least, most⟩ := count
      cases most with
      | some m =>
          simp [code, size, repCode, repSize, length_copies ih, length_options ih]
      | none =>
          cases least with
          | zero =>
              simp only [code, size, repCode, repSize]
              split <;> simp [ih]
          | succ n => simp [code, size, repCode, repSize, length_copies ih, ih, Nat.add_assoc]
  | capture index sub ih => simp [code, size, ih]
  | cat a b iha ihb => simp [code, size, iha, ihb]
  | alt a b iha ihb =>
      simp only [code, size, List.length_cons, List.length_append, iha, ihb]
      omega

/-! ## Where code ends -/

theorem stop_bounded (sub : Node) (least m : Nat) (greedy : Bool) (base : Nat) :
    base + (rep sub ⟨least, some m⟩ greedy).size =
      base + least * sub.size + (m - least) * (sub.size + 1) := by
  simp only [size, repSize]
  omega

theorem stop_star (sub : Node) (greedy : Bool) (base : Nat) :
    base + (rep sub ⟨0, none⟩ greedy).size = base + sub.size + 2 := by
  simp only [size, repSize]
  omega

theorem stop_plus (sub : Node) (n : Nat) (greedy : Bool) (base : Nat) :
    base + (rep sub ⟨n + 1, none⟩ greedy).size = base + n * sub.size + sub.size + 1 := by
  simp only [size, repSize]
  omega

theorem stop_capture (index : Nat) (sub : Node) (base : Nat) :
    base + (capture index sub).size = base + 1 + sub.size + 1 := by
  simp only [size]
  omega

theorem stop_alt (a b : Node) (base : Nat) :
    base + (alt a b).size = base + a.size + b.size + 2 := by
  simp only [size]
  omega

/-- Wherever the code of a node stands in the program, it goes the ways of the node. -/
def Followed (p : Program) (n : Node) : Prop :=
  ∀ base, p.Holds base (n.code base) → ∀ w, p.Goes base w (n.ways w) (base + n.size)

namespace Followed

variable {sub a b : Node} {greedy : Bool}

/-- A repetition with a bound goes as its copies and its options do. -/
theorem bounded {least m : Nat} (hsub : Followed p sub) :
    Followed p (rep sub ⟨least, some m⟩ greedy) := by
  intro base h w
  have hoptions := h.right
  rw [length_copies sub.length_code] at hoptions
  rw [stop_bounded]
  exact (Program.Goes.copies hsub sub.length_code least h.left w).flatMap fun u _ =>
    .options hsub sub.length_code (m - least) rfl hoptions u

/-- Any number of rounds: before every round it is decided whether there is one more. -/
theorem star (hsub : Followed p sub) (htakes : sub.takesText = true) :
    Followed p (rep sub ⟨0, none⟩ greedy) := by
  intro base h w
  simp only [code, repCode, htakes, if_true] at h
  have hback := h.tail.right.head
  rw [sub.length_code] at hback
  -- A round ends with a jump back to the place of decision.
  have hround : ∀ w, p.Goes (base + 1) w (sub.ways w) base := by
    intro w
    have hthere := (hsub _ h.tail.left w).flatMap fun u _ => .jump hback (.refl p base u)
    simpa using hthere
  have hloop := Program.Goes.loop h.head hround
    (fun _ _ hu => sub.rest_length_lt_of_takesText htakes hu) w
  rw [stop_star]
  simpa [ways, Way.power] using hloop

/-- One round or more: after the last round that must be, it is decided whether there is one
more. -/
theorem plus {n : Nat} (hsub : Followed p sub) (htakes : sub.takesText = true) :
    Followed p (rep sub ⟨n + 1, none⟩ greedy) := by
  intro base h w
  simp only [code, repCode] at h
  have hlast := h.right
  rw [length_copies sub.length_code] at hlast
  have hagain := hlast.right.head
  rw [sub.length_code] at hagain
  have hround := fun w => hsub _ hlast.left w
  have hmust : p.Goes base w (Way.power sub.ways (n + 1) w)
      (base + n * sub.size + sub.size) := by
    rw [Way.power_succ]
    exact (Program.Goes.copies hsub sub.length_code n h.left w).flatMap fun u _ => hround u
  rw [stop_plus]
  exact hmust.flatMap fun u _ =>
    Program.Goes.loop hagain hround (fun _ _ hu => sub.rest_length_lt_of_takesText htakes hu) u

theorem capture {index : Nat} (hsub : Followed p sub) : Followed p (capture index sub) := by
  intro base h w
  have hclose := h.tail.right.head
  rw [sub.length_code] at hclose
  have hinside := (Program.Goes.save (w := w) h.head).flatMap fun u _ => hsub _ h.tail.left u
  have hall := hinside.flatMap fun u _ => Program.Goes.save (w := u) hclose
  rw [stop_capture]
  simpa [ways, List.map_eq_flatMap] using hall

theorem cat (ha : Followed p a) (hb : Followed p b) : Followed p (cat a b) := by
  intro base h w
  have hsecond := h.right
  rw [a.length_code] at hsecond
  have hall := (ha base h.left w).flatMap fun u _ => hb _ hsecond u
  rw [size, ← Nat.add_assoc]
  exact hall

/-- A choice goes the ways of the first part, after which it jumps over the second, and then those
of the second. -/
theorem alt (ha : Followed p a) (hb : Followed p b) : Followed p (alt a b) := by
  intro base h w
  have hafter := h.tail.right
  rw [a.length_code] at hafter
  have hjump := hafter.head
  have hsecond := hafter.tail
  have haddress : base + 1 + a.size + 1 = base + a.size + 2 := by omega
  rw [haddress] at hsecond
  rw [stop_alt]
  have hfirst : p.Goes (base + 1) w (a.ways w) (base + a.size + b.size + 2) := by
    have hthere := (ha _ h.tail.left w).flatMap fun u _ => .jump hjump (.refl p _ u)
    simpa using hthere
  have hother : p.Goes (base + a.size + 2) w (b.ways w) (base + a.size + b.size + 2) := by
    have hthere := hb _ hsecond w
    rwa [show base + a.size + 2 + b.size = base + a.size + b.size + 2 by omega] at hthere
  exact .split h.head hfirst hother

end Followed

/-- Every node is followed if what it repeats without bound takes text. -/
theorem followed (n : Node) (hproductive : n.productive = true) : Followed p n := by
  induction n with
  | empty => exact fun base _ w => .refl p base w
  | literal text => exact fun _ h w => .literal h w
  | set chars => exact fun _ h _ => .set h.head
  | look l => exact fun _ h _ => .look h.head
  | rep sub count greedy ih =>
      obtain ⟨least, most⟩ := count
      simp only [productive, Bool.and_eq_true, Bool.or_eq_true] at hproductive
      obtain ⟨hsub, hbound⟩ := hproductive
      cases most with
      | some m => exact (ih hsub).bounded
      | none =>
          have htakes : sub.takesText = true := by simpa using hbound
          cases least with
          | zero => exact (ih hsub).star htakes
          | succ n => exact (ih hsub).plus htakes
  | capture index sub ih => exact (ih hproductive).capture
  | cat a b iha ihb =>
      simp only [productive, Bool.and_eq_true] at hproductive
      exact (iha hproductive.1).cat (ihb hproductive.2)
  | alt a b iha ihb =>
      simp only [productive, Bool.and_eq_true] at hproductive
      exact (iha hproductive.1).alt (ihb hproductive.2)

/-- The program of a pattern is its code, with an end that accepts. -/
theorem holds_program (n : Node) :
    n.program.Holds 0 ((capture 0 n).code 0) ∧
      n.program.instructions[0 + (capture 0 n).size]? = some .accept := by
  have hcode : n.program.Holds 0 ((capture 0 n).code 0 ++ [.accept]) := by
    intro i hi
    simp [program]
  have haccept := hcode.right.head
  rw [length_code] at haccept
  exact ⟨hcode.left, haccept⟩

/-- Following the program of a pattern from a place gives what was saved on the first way. -/
theorem resolves_program (n : Node) (hproductive : n.productive = true) (k : Cursor) :
    ∃ m, n.program.Resolves m [⟨0, k, []⟩]
      (((capture 0 n).ways ⟨k, []⟩).head?.map Way.slots) := by
  obtain ⟨hcode, haccept⟩ := n.holds_program
  have hgoes := (capture 0 n).followed hproductive 0 hcode ⟨k, []⟩
  cases hways : (capture 0 n).ways ⟨k, []⟩ with
  | nil =>
      rw [hways] at hgoes
      exact hgoes [] 0 none .nil
  | cons u ws =>
      rw [hways] at hgoes
      exact hgoes [] 1 (some u.slots) (.accept haccept)

/-- A search for a pattern gives what was saved on the first way from the leftmost place that has
one. -/
theorem search_program (n : Node) (hproductive : n.productive = true) {length : Nat} {k : Cursor}
    (hlength : k.rest.length ≤ length) :
    n.program.search length k =
      k.onward.findSome? fun l => ((capture 0 n).ways ⟨l, []⟩).head?.map Way.slots :=
  n.program.search_eq _ hlength fun l _ => n.resolves_program hproductive l

end Node

/-- A pattern is made ready for use if it means a node that is small enough. -/
theorem compile_of_meaning {source : String} {n : Node}
    (hmeaning : (do (← Ast.read source.toList).meaning : Except SyntaxFault Node) = .ok n)
    (hsmall : n.footprint ≤ footprintLimit) :
    Pattern.compile source = .ok ⟨n.program, n.captures⟩ := by
  rw [Pattern.compile, hmeaning]
  simp only [hsmall, if_true]

end ContainerLint.Pattern
