import ContainerLint.Proofs.Pattern.LineStarts
import ContainerLint.Proofs.Pattern.Ways

/-!
# Patterns that stay in a line

An inline node asks for no line end and for no end of the text (`Node.inline`). Started at the
beginning of a line, it sees nothing but this line: its ways in the text are its ways in the line
alone, put back into the text (`Node.ways_inText`).
-/

namespace ContainerLint.Pattern

namespace Cursor

/-- The place in a text that a place in the line stands for that starts at `l`. -/
def inText (l v : Cursor) : Cursor := l.forth v.index

/-- The places in the line that starts at `l`. -/
abbrev linePlaces (l : Cursor) : List Cursor := (start (Text.firstLine l.rest)).onward

variable {l v : Cursor}

theorem eq_forth_of_mem_linePlaces (hv : v ∈ l.linePlaces) :
    v = (start (Text.firstLine l.rest)).forth v.index ∧
      v.index ≤ (Text.firstLine l.rest).length :=
  eq_forth_of_mem_onward hv

/-- After a place of a line comes the rest of the line, and then nothing or a line end. -/
theorem rest_inText (hv : v ∈ l.linePlaces) :
    ∃ after, (l.inText v).rest = v.rest ++ after ∧
      ∀ c, after.head? = some c → Text.isBreak c = true := by
  obtain ⟨heq, hle⟩ := eq_forth_of_mem_linePlaces hv
  obtain ⟨after, hrest, hafter⟩ := l.rest_forth_firstLine hle
  refine ⟨after, ?_, hafter⟩
  rw [inText, hrest, heq, forth_rest, ← heq]
  rfl

/-- What comes next in a line comes next in the text. -/
theorem rest_inText_cons (hv : v ∈ l.linePlaces) {c : Char} {rest : List Char}
    (hrest : v.rest = c :: rest) :
    ∃ more, (l.inText v).rest = c :: more ∧
      (l.inText v).past c more = l.inText (v.past c rest) := by
  obtain ⟨after, hafter, -⟩ := rest_inText hv
  rw [hrest, List.cons_append] at hafter
  exact ⟨rest ++ after, hafter, (forth_succ hafter).symm⟩

theorem isBreak_of_mem_linePlaces (hv : v ∈ l.linePlaces) {c : Char} (h : c ∈ v.rest) :
    Text.isBreak c = false := by
  obtain ⟨heq, -⟩ := eq_forth_of_mem_linePlaces hv
  rw [congrArg Cursor.rest heq, forth_rest] at h
  exact Text.isBreak_of_mem_firstLine (List.mem_of_mem_drop h)

/-- Where a line starts, the character before ends one. -/
theorem StartsLine.isBreak_of_before (h : l.StartsLine) {c : Char} (hc : l.before = some c) :
    Text.isBreak c = true := by
  simp only [StartsLine, Look.holds, hc, Bool.or_eq_true, Bool.and_eq_true,
    decide_eq_true_eq] at h
  rcases h with rfl | ⟨rfl, -⟩ <;> rfl

/-- Before a place of a line comes a character of the line, or what comes before the line. -/
theorem before_inText (hv : v ∈ l.linePlaces) :
    (l.inText v).before = v.before.or l.before ∧
      ∀ c, v.before = some c → Text.isBreak c = false := by
  obtain ⟨heq, hle⟩ := eq_forth_of_mem_linePlaces hv
  have htake : l.rest.take v.index = (Text.firstLine l.rest).take v.index := by
    rw [← Text.take_firstLine l.rest, List.take_take, Nat.min_eq_left hle]
  have hbefore : v.before = ((Text.firstLine l.rest).take v.index).getLast? := by
    rw [congrArg Cursor.before heq, forth_before]
    exact Option.or_none
  refine ⟨?_, fun c hc => ?_⟩
  · rw [inText, forth_before, htake, ← hbefore]
  · rw [hbefore] at hc
    exact Text.isBreak_of_mem_firstLine (List.mem_of_mem_take (List.mem_of_getLast? hc))

/-- Before the first place of a line nothing of it comes, and before no other. -/
theorem inText_of_before (hv : v ∈ l.linePlaces) (h : v.before = none) :
    l.inText v = l ∧ v = start (Text.firstLine l.rest) := by
  obtain ⟨heq, hle⟩ := eq_forth_of_mem_linePlaces hv
  have hzero : v.index = 0 := by
    have hbefore := forth_before v.index (start (Text.firstLine l.rest))
    rw [← heq, h] at hbefore
    obtain ⟨hnone, -⟩ := Option.or_eq_none_iff.mp hbefore.symm
    have hlength : min v.index (Text.firstLine l.rest).length = 0 := by
      simpa [start] using congrArg List.length (List.getLast?_eq_none_iff.mp hnone)
    omega
  rw [hzero] at heq
  exact ⟨by rw [inText, hzero]; rfl, heq⟩

end Cursor

namespace Look

/-- The condition can be checked in a line alone. -/
def isInline : Look → Bool
  | .textStart | .textEnd => false
  | .lineStart crlf | .lineEnd crlf => crlf
  | .word _ _ => true

variable {l v : Cursor}

/-- At the edge of a line there is no word. -/
theorem isWordBeside_of_isBreak (ascii : Bool) {beside : Option Char}
    (h : ∀ c, beside = some c → Text.isBreak c = true) : isWordBeside ascii beside = false := by
  cases beside with
  | none => rfl
  | some c =>
      have hc := h c rfl
      simp only [Text.isBreak, Bool.or_eq_true, decide_eq_true_eq] at hc
      rcases hc with rfl | rfl <;> cases ascii <;> decide +kernel

/-- Whether a line starts or ends, or a word, can be seen in the line alone. -/
theorem holds_inText (hl : l.StartsLine) (hv : v ∈ l.linePlaces) {look : Look}
    (hlook : look.isInline = true) : look.holds (l.inText v) = look.holds v := by
  obtain ⟨hbefore, hline⟩ := Cursor.before_inText hv
  obtain ⟨after, hrest, hafter⟩ := Cursor.rest_inText hv
  cases look with
  | textStart | textEnd => cases hlook
  | lineStart crlf =>
      obtain rfl : crlf = true := hlook
      cases hb : v.before with
      | none =>
          obtain ⟨heq, hstart⟩ := Cursor.inText_of_before hv hb
          rw [heq, hstart]
          exact hl
      | some c =>
          have hc := hline c hb
          simp only [Text.isBreak, Bool.or_eq_false_iff, decide_eq_false_iff_not] at hc
          simp [holds, hbefore, hb, hc]
  | lineEnd crlf =>
      obtain rfl : crlf = true := hlook
      simp only [holds, hrest]
      cases hv' : v.rest with
      | cons c rest =>
          have hc := Cursor.isBreak_of_mem_linePlaces hv (hv' ▸ List.mem_cons_self)
          simp only [Text.isBreak, Bool.or_eq_false_iff, decide_eq_false_iff_not] at hc
          simp [hc]
      | nil =>
          cases after with
          | nil => rfl
          | cons c more =>
              -- The line feed of a line end is not taken for one of its own: before it stands a
              -- character of the line, or the line starts there.
              have hreturn : c = '\n' → (l.inText v).before ≠ some '\r' := by
                rintro rfl hreturn
                cases hb : v.before with
                | some d =>
                    rw [hbefore, hb] at hreturn
                    cases hreturn
                    cases hline _ hb
                | none =>
                    rw [(Cursor.inText_of_before hv hb).1] at hreturn hrest
                    simp [Cursor.StartsLine, holds, hreturn, hrest, hv'] at hl
              have hc := hafter c rfl
              simp only [Text.isBreak, Bool.or_eq_true, decide_eq_true_eq] at hc
              rcases hc with rfl | rfl
              · simpa using hreturn rfl
              · rfl
  | word ascii edge =>
      have hleft : isWordBeside ascii (l.inText v).before = isWordBeside ascii v.before := by
        rw [hbefore]
        cases hb : v.before with
        | some c => rfl
        | none => exact isWordBeside_of_isBreak ascii fun c => hl.isBreak_of_before
      have hright : isWordBeside ascii (l.inText v).rest.head? =
          isWordBeside ascii v.rest.head? := by
        rw [hrest]
        cases v.rest with
        | cons c rest => rfl
        | nil => exact isWordBeside_of_isBreak ascii hafter
      simp only [holds, hleft, hright]

end Look

namespace Way

/-- The way in a text that a way in the line stands for that starts at `l`. -/
def inText (l : Cursor) (w : Way) : Way :=
  ⟨l.inText w.place, w.slots.map fun s => (s.1, l.inText s.2)⟩

variable {l : Cursor} {u w : Way} {part : Way → List Way}

/-- A character of the line is passed in the text as in the line. -/
theorem take_inText (hw : w.place ∈ l.linePlaces) {accepts : Char → Bool}
    (haccepts : ∀ c, Text.isBreak c = true → accepts c = false) :
    (w.inText l).take accepts = (w.take accepts).map (inText l) := by
  cases hrest : w.place.rest with
  | cons c rest =>
      obtain ⟨more, hmore, hpast⟩ := Cursor.rest_inText_cons hw hrest
      have htext : (w.inText l).place.rest = c :: more := hmore
      simp only [take, hrest, htext]
      rw [show (w.inText l).place.past c more = l.inText (w.place.past c rest) from hpast]
      cases accepts c <;> rfl
  | nil =>
      obtain ⟨after, hafter, hbreak⟩ := Cursor.rest_inText hw
      rw [hrest, List.nil_append] at hafter
      have htext : (w.inText l).place.rest = after := hafter
      simp only [take, hrest, htext]
      cases after with
      | nil => rfl
      | cons c more => simp [haccepts c (hbreak c rfl)]

/-- The rounds of a part that goes in the text as in the line do so too. -/
theorem power_inText
    (hpart : ∀ w : Way, w.place ∈ l.linePlaces → part (w.inText l) = (part w).map (inText l))
    (hline : ∀ w : Way, w.place ∈ l.linePlaces → ∀ u ∈ part w, u.place ∈ l.linePlaces) (n : Nat)
    (hw : w.place ∈ l.linePlaces) :
    power part n (w.inText l) = (power part n w).map (inText l) := by
  induction n generalizing w with
  | zero => rfl
  | succ n ih =>
      rw [power, power, hpart w hw, List.flatMap_map, List.map_flatMap]
      exact List.flatMap_congr fun u hu => ih (hline w hw u hu)

theorem upTo_inText {greedy : Bool}
    (hpart : ∀ w : Way, w.place ∈ l.linePlaces → part (w.inText l) = (part w).map (inText l))
    (hline : ∀ w : Way, w.place ∈ l.linePlaces → ∀ u ∈ part w, u.place ∈ l.linePlaces) (n : Nat)
    (hw : w.place ∈ l.linePlaces) :
    upTo part greedy n (w.inText l) = (upTo part greedy n w).map (inText l) := by
  induction n generalizing w with
  | zero => rfl
  | succ n ih =>
      have hmore : (part (w.inText l)).flatMap (upTo part greedy n) =
          ((part w).flatMap (upTo part greedy n)).map (inText l) := by
        rw [hpart w hw, List.flatMap_map, List.map_flatMap]
        exact List.flatMap_congr fun u hu => ih (hline w hw u hu)
      rw [upTo, upTo, hmore]
      cases greedy <;> simp [prefer]

end Way

namespace Node

/-- The node asks for no line end, and for no end of the text. -/
def inline : Node → Bool
  | .empty => true
  | .literal text => text.all fun c => !Text.isBreak c
  | .set chars => !chars.contains '\n' && !chars.contains '\r'
  | .look l => l.isInline
  | .rep sub _ _ => sub.inline
  | .capture _ sub => sub.inline
  | .cat a b => a.inline && b.inline
  | .alt a b => a.inline && b.inline

/-- From the start of a line on, the ways of an inline node in the text are those in the line. -/
theorem ways_inText (n : Node) (hinline : n.inline = true) (hproductive : n.productive = true)
    {l : Cursor} (hl : l.StartsLine) {w : Way} (hw : w.place ∈ l.linePlaces) :
    n.ways (w.inText l) = (n.ways w).map (Way.inText l) := by
  have hline : ∀ (n : Node) (w : Way), w.place ∈ l.linePlaces → ∀ u ∈ n.ways w,
      u.place ∈ l.linePlaces :=
    fun n w hw u hu => Cursor.mem_onward_trans hw (n.place_mem_onward hu)
  induction n generalizing w with
  | empty => rfl
  | literal text =>
      simp only [inline, List.all_eq_true, Bool.not_eq_true'] at hinline
      show Way.literal text (w.inText l) = (Way.literal text w).map (Way.inText l)
      induction text generalizing w with
      | nil => rfl
      | cons c text ih =>
          have haccepts : ∀ d, Text.isBreak d = true → decide (c = d) = false := by
            intro d hd
            rw [decide_eq_false_iff_not]
            rintro rfl
            rw [hinline c List.mem_cons_self] at hd
            cases hd
          rw [Way.literal, Way.literal, Way.take_inText hw haccepts, List.flatMap_map,
            List.map_flatMap]
          refine List.flatMap_congr fun u hu => ?_
          refine ih rfl ?_ fun d hd => hinline d (List.mem_cons_of_mem _ hd)
          obtain ⟨d, rest, hrest, -, rfl⟩ := Way.mem_take.mp hu
          exact Cursor.mem_onward_trans hw (Cursor.past_mem_onward hrest)
  | set chars =>
      refine Way.take_inText hw fun c hc => ?_
      simp only [inline, Bool.and_eq_true, Bool.not_eq_true'] at hinline
      simp only [Text.isBreak, Bool.or_eq_true, decide_eq_true_eq] at hc
      rcases hc with rfl | rfl
      · exact hinline.1
      · exact hinline.2
  | look look =>
      have hholds : look.holds (w.inText l).place = look.holds w.place :=
        Look.holds_inText hl hw hinline
      simp only [ways, hholds]
      cases look.holds w.place <;> rfl
  | rep sub count greedy ih =>
      simp only [productive, Bool.and_eq_true, Bool.or_eq_true] at hproductive
      obtain ⟨hsub, hbound⟩ := hproductive
      have hpart : ∀ w : Way, w.place ∈ l.linePlaces →
          sub.ways (w.inText l) = (sub.ways w).map (Way.inText l) :=
        fun w hw => ih hinline hsub hw
      rw [ways, ways, Way.power_inText hpart (hline sub) _ hw, List.flatMap_map, List.map_flatMap]
      refine List.flatMap_congr fun u hu => ?_
      have hplace : u.place ∈ l.linePlaces :=
        Way.power_induction (r := fun w u => w.place ∈ l.linePlaces → u.place ∈ l.linePlaces)
          (fun _ h => h) (fun h h' hw => h' (h hw)) (fun w u hu hw => hline sub w hw u hu) hu hw
      have hrounds : ∀ times, Way.upTo sub.ways greedy times (u.inText l) =
          (Way.upTo sub.ways greedy times u).map (Way.inText l) :=
        fun times => Way.upTo_inText hpart (hline sub) times hplace
      cases hmax : count.max with
      | some m => exact hrounds _
      | none =>
          -- There are more rounds to try in the text, which makes no difference.
          have htakes : sub.takesText = true := by simpa [hmax] using hbound
          obtain ⟨after, hafter, -⟩ := Cursor.rest_inText hplace
          have hlength : u.place.rest.length ≤ (l.inText u.place).rest.length := by
            rw [hafter, List.length_append]
            omega
          refine (hrounds _).trans (congrArg (List.map (Way.inText l)) ?_)
          exact Way.upTo_eq_of_le (fun _ _ h => sub.rest_length_lt_of_takesText htakes h) hlength
            (Nat.le_refl _)
  | capture index sub ih =>
      have hsub := ih (w := w.save (2 * index)) hinline hproductive hw
      rw [ways, ways, List.map_map]
      refine (congrArg (List.map (Way.save (2 * index + 1))) hsub).trans ?_
      rw [List.map_map]
      rfl
  | cat a b iha ihb =>
      simp only [inline, productive, Bool.and_eq_true] at hinline hproductive
      rw [ways, ways, iha hinline.1 hproductive.1 hw, List.flatMap_map, List.map_flatMap]
      exact List.flatMap_congr fun u hu => ihb hinline.2 hproductive.2 (hline a w hw u hu)
  | alt a b iha ihb =>
      simp only [inline, productive, Bool.and_eq_true] at hinline hproductive
      rw [ways, ways, List.map_append, iha hinline.1 hproductive.1 hw,
        ihb hinline.2 hproductive.2 hw]

end Node

end ContainerLint.Pattern
