import ContainerLint.Proofs.Linter.Extraction
import ContainerLint.Proofs.Pattern.Iteration
import Mathlib.Data.List.Forall2

/-!
# One diagnostic for each match

The matches of a pattern in a text are spans of the text, one after the other
(`Pattern.all_lists`), whatever the pattern is, and each diagnostic says what stands in the span
of its match (`Extractor.extract_matches`).
-/

namespace ContainerLint

open Pattern

/-- The span is a part of the text, and its ends are counted in bytes of the text. -/
def Span.In (s : Span) (text : String) : Prop :=
  ∃ before after, text = before ++ s.text ++ after ∧ s.start = before.utf8ByteSize ∧
    s.stop = s.start + s.text.utf8ByteSize

/-- The part stands in the text, between the ends of the span. -/
def Span.Shows (whole : Span) (text part : String) : Prop :=
  ∃ s : Span, s.In text ∧ whole.start ≤ s.start ∧ s.stop ≤ whole.stop ∧ s.text = part

namespace Pattern

variable {k l m stop : Cursor} {slots : Slots} {chars : List Char}

/-- The span between two places. -/
def Cursor.span (k l : Cursor) : Span := ⟨k.offset, l.offset, String.ofList (k.textTo l)⟩

/-- The span between two places of a text is a part of it. -/
theorem Cursor.span_in (hk : k ∈ (Cursor.start chars).onward) (hl : l ∈ k.onward) :
    (k.span l).In (String.ofList chars) := by
  obtain ⟨hbefore, hstart⟩ := rest_eq_of_mem_onward hk
  obtain ⟨htext, hstop⟩ := rest_eq_of_mem_onward hl
  refine ⟨String.ofList ((Cursor.start chars).textTo k), String.ofList l.rest, ?_, ?_, hstop⟩
  · rw [span, ← String.ofList_append, ← String.ofList_append, List.append_assoc,
      ← htext, ← hbefore]
    rfl
  · rw [span, hstart]
    exact Nat.zero_add _

/-! ## The spans of a match -/

variable {captures i : Nat} {text part : String}

/-- The first of the spans is that of the whole match. -/
theorem Slots.Spans.head?_toMatch (h : slots.Spans l stop) (captures : Nat) :
    (slots.toMatch captures).groups.head? = some (some (l.span stop)) := by
  rw [toMatch, List.range_succ_eq_map, List.map_cons, List.head?_cons, span?, h.place?_start,
    h.place?_stop]
  rfl

/-- What a group holds stands in the span of the match. -/
theorem Slots.Spans.shows (h : slots.Spans l stop) (hl : l ∈ (Cursor.start chars).onward)
    (hpart : (slots.toMatch captures).text? i = some part) :
    (l.span stop).Shows (String.ofList chars) part := by
  rw [text?_toMatch] at hpart
  split at hpart
  · simp only [text?, Option.bind_eq_some_iff, Option.map_eq_some_iff] at hpart
    obtain ⟨k, hk, m, hm, rfl⟩ := hpart
    obtain ⟨m', hm', honward⟩ := h.closed i k hk
    cases hm.symm.trans hm'
    have hstart := (h.inside _ k hk).1
    exact ⟨k.span m, Cursor.span_in (Cursor.mem_onward_trans hl hstart) honward,
      Cursor.offset_le hstart, Cursor.offset_le (h.inside _ m hm).2, rfl⟩
  · cases hpart

end Pattern

/-! ## The matches of a text -/

/-- The matches of a text, with the span of each: all that there are, one after the other. -/
structure Pattern.Lists (p : Pattern) (text : String) (found : List Match) (wholes : List Span) :
    Prop where
  complete : ∃ slots : List Slots, found = slots.map (·.toMatch p.captures) ∧
    p.program.Iterates text.length (.start text.toList) none slots
  whole : List.Forall₂ (fun s m => m.groups.head? = some (some s)) wholes found
  inText : ∀ s ∈ wholes, s.In text
  apart : wholes.IsChain fun s t => s.stop ≤ t.start ∧ s.start < t.start
  length_le : wholes.length ≤ text.length + 1
  shows : List.Forall₂ (fun s m => ∀ i part, m.text? i = some part → s.Shows text part)
    wholes found

/-- The matches that are listed are all matches of the text. -/
theorem Pattern.all_lists {source : String} {p : Pattern} (h : Pattern.compile source = .ok p)
    (text : String) : ∃ wholes, p.Lists text (p.all text) wholes := by
  obtain ⟨n, rfl, hnumbered⟩ := exists_node_of_compile h
  have hlength : (Cursor.start text.toList).rest.length = text.length := String.length_toList
  obtain ⟨found, hall, hiterates⟩ := n.iterates_all hnumbered n.captures text
  obtain ⟨ends, hfound, hplaces, hchain, -⟩ :=
    n.exists_ends_of_iterates hnumbered (Nat.le_of_eq hlength) hiterates
  rw [hall]
  refine ⟨ends.map fun e => e.1.span e.2, ⟨_, rfl, hiterates⟩, ?_, ?_, ?_, ?_, ?_⟩
  · rw [List.forall₂_map_left_iff, List.forall₂_map_right_iff]
    exact hfound.imp fun _ _ h => h.head?_toMatch n.captures
  · intro s hs
    obtain ⟨e, he, rfl⟩ := List.mem_map.mp hs
    simpa using Cursor.span_in (hplaces e he).1 (hplaces e he).2
  · refine (List.isChain_map _).mpr (hchain.imp fun s t h => ?_)
    exact ⟨Cursor.offset_le h.1, Cursor.offset_lt h.2.1 h.2.2⟩
  · rw [List.length_map, ← hlength]
    exact length_le_of_isChain (fun e he => (hplaces e he).1) hchain
  · rw [List.forall₂_map_left_iff, List.forall₂_map_right_iff]
    have hboth := (List.forall₂_and_left ends _).mpr ⟨hplaces, hfound⟩
    refine hboth.imp fun e slots h i part hpart => ?_
    simpa using h.2.shows h.1.1 hpart

/-- The pattern of a rule that was made ready for use was made ready for use. -/
theorem ExtractionRule.pattern_of_compile {r : ExtractionRule} {e : Extractor}
    (h : r.compile = .ok e) : Pattern.compile r.pattern = .ok e.pattern := by
  rw [compile] at h
  split at h
  · cases h
  · rename_i p hp
    split at h <;> cases h
    exact hp

namespace Extractor

variable {e : Extractor} {m : Match} {s : Span} {text : String}

/-- A diagnostic has its texts from the match. -/
theorem shows_diagnostic (h : ∀ i part, m.text? i = some part → s.Shows text part) :
    ((e.diagnostic m).message ≠ "" → s.Shows text (e.diagnostic m).message) ∧
      ∀ code, (e.diagnostic m).code = some code → s.Shows text code := by
  constructor
  · intro hmessage
    simp only [diagnostic, group] at hmessage ⊢
    cases hpart : m.text? e.rule.messageGroup.toNat with
    | none => simp [hpart] at hmessage
    | some part => exact h _ part hpart
  · intro code hcode
    obtain ⟨index, -, hpart⟩ := Option.bind_eq_some_iff.mp hcode
    exact h _ code hpart

/-- There is one diagnostic for each match, in order, and what it says stands in the span of its
match. -/
theorem extract_matches {r : ExtractionRule} (h : r.compile = .ok e) (text : String) :
    ∃ wholes, e.pattern.Lists text (e.pattern.all text) wholes ∧
      (e.extract text).length = (e.pattern.all text).length ∧
      List.Forall₂ (fun m d => d = e.diagnostic m) (e.pattern.all text) (e.extract text) ∧
      List.Forall₂ (fun s d => (d.message ≠ "" → s.Shows text d.message) ∧
        ∀ code, d.code = some code → s.Shows text code) wholes (e.extract text) := by
  obtain ⟨wholes, hlists⟩ := Pattern.all_lists (r.pattern_of_compile h) text
  refine ⟨wholes, hlists, List.length_map _, ?_, ?_⟩
  · exact List.forall₂_map_right_iff.mpr (List.forall₂_same.mpr fun _ _ => rfl)
  · exact List.forall₂_map_right_iff.mpr (hlists.shows.imp fun _ _ h => shows_diagnostic h)

/-- A pattern that matches the empty text too is matched at the end of a text in two bytes. -/
theorem extract_matches_optional :
    ∃ e, (⟨"(b*)", 1, none, none, 1, some 1⟩ : ExtractionRule).compile = .ok e ∧
      ∃ wholes, e.pattern.Lists "bé" (e.pattern.all "bé") wholes ∧
        (e.extract "bé").length = (e.pattern.all "bé").length ∧
        List.Forall₂ (fun m d => d = e.diagnostic m) (e.pattern.all "bé") (e.extract "bé") ∧
        List.Forall₂ (fun s d => (d.message ≠ "" → s.Shows "bé" d.message) ∧
          ∀ code, d.code = some code → s.Shows "bé" code) wholes (e.extract "bé") :=
  have hcompile : (⟨"(b*)", 1, none, none, 1, some 1⟩ : ExtractionRule).compile = .ok _ :=
    ExtractionRule.compile_of_meaning (n := .capture 1 (.rep (.literal ['b']) ⟨0, none⟩ true))
      (by decide +kernel) (by decide +kernel) (by decide)
  ⟨_, hcompile, extract_matches hcompile "bé"⟩

end Extractor

end ContainerLint
