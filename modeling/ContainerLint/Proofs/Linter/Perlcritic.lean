import ContainerLint.Proofs.Linter.Extraction
import ContainerLint.Proofs.Pattern.Runs
import ContainerLint.Proofs.Text.Figures
import Mathlib.Data.List.Forall2
import Mathlib.Data.Nat.Find

/-!
# Violations that perlcritic prints

The built-in command asks perlcritic for one line a violation, with the line, the column, the
severity, the policy and the message between colons. The built-in pattern takes these lines apart
again. But word characters and colons are all it asks of the policy, so of the policy and the
message it takes the longest part of this kind that a colon ends (`LongestSplit`).
`perlcritic_report` says what is read back, and that it is what was printed if and only if no
message starts in such a way.
-/

namespace ContainerLint

open Pattern

namespace Perlcritic

/-! ## The pattern -/

/-- What the pattern takes for the name of a policy: word characters and colons. -/
def nameChars : CharSet := ⟨(48, 58) :: Text.wordRanges.tail⟩

/-- The message, which comes after a colon and ends with the line. -/
def messageNode : Node :=
  .cat (.literal [':']) (.cat (.capture 5 (.run lineChars)) (.look (.lineEnd true)))

/-- The policy and the message. -/
def policyNode : Node := .cat (.capture 4 (.run nameChars)) messageNode

/-- The built-in pattern, with its meaning fixed. -/
def perlcriticNode : Node :=
  .cat (.look (.lineStart true))
    (.cat (.capture 1 (.run Text.decimals)) (.cat (.literal [':'])
      (.cat (.capture 2 (.run Text.decimals)) (.cat (.literal [':'])
        (.cat (.capture 3 (.set Text.decimals)) (.cat (.literal [':']) policyNode))))))

/-- The extractor of perlcritic. -/
def perlcriticExtractor : Extractor := ⟨Linter.perlcritic.rule, ⟨perlcriticNode.program, 5⟩⟩

theorem extractor_perlcritic :
    ProfileSettings.unchanged.extractor .perlcritic = .ok perlcriticExtractor :=
  ProfileSettings.extractor_of_meaning (by decide +kernel) (by decide +kernel)
    (by decide) (by decide)

theorem perlcriticNode_linewise : perlcriticNode.Linewise where
  starts := ⟨_, rfl⟩
  inline := by decide
  productive := by decide
  takesText := by decide
  numbered := by decide

/-! ## Its characters -/

/-- The character may belong to the name of a policy. -/
abbrev IsNameChar (c : Char) : Prop := Text.isWord c = true ∨ c = ':'

theorem nameChars_contains (c : Char) : nameChars.contains c = true ↔ IsNameChar c := by
  have hcolon : c = ':' ↔ c.toNat = 58 := Char.toNat_inj.symm
  have hranges : Text.wordRanges = (48, 57) :: (65, 90) :: Text.wordRanges.drop 2 := rfl
  rw [IsNameChar, hcolon, Text.isWord, CharSet.contains, nameChars, hranges]
  simp only [List.tail_cons, CharSet.inRanges]
  grind

theorem isBreak_of_isNameChar {c : Char} (h : IsNameChar c) : Text.isBreak c = false := by
  rcases h with h | rfl
  · exact Text.isBreak_of_isWord h
  · rfl

/-! ## Splitting at a colon -/

/-- The text is a code and a message with a colon between them. -/
structure Splits (text code message : List Char) : Prop where
  text_eq : text = code ++ ':' :: message
  code_ne_nil : code ≠ []
  isNameChar : ∀ c ∈ code, IsNameChar c
  message_ne_nil : message ≠ []

/-- The text is a code and a message with a colon between them, and there is no longer code. -/
structure LongestSplit (text code message : List Char) : Prop
    extends Splits text code message where
  longest : ∀ other rest, Splits text other rest → other.length ≤ code.length

variable {text code message : List Char}

theorem Splits.length_lt (h : Splits text code message) : code.length < text.length := by
  rw [h.text_eq, List.length_append, List.length_cons]
  omega

/-- If a text can be split it can be split with the longest code. -/
theorem Splits.exists_longestSplit (h : Splits text code message) :
    ∃ code message, LongestSplit text code message := by
  classical
  let P : Nat → Prop := fun k => ∃ code message, Splits text code message ∧ code.length = k
  have hbound : ∀ {code message}, Splits text code message →
      code.length ≤ Nat.findGreatest P text.length :=
    fun hsplit => Nat.le_findGreatest (Nat.le_of_lt hsplit.length_lt) ⟨_, _, hsplit, rfl⟩
  obtain ⟨longest, rest, hsplit, hlength⟩ : P (Nat.findGreatest P text.length) :=
    Nat.findGreatest_spec (Nat.le_of_lt h.length_lt) ⟨code, message, h, rfl⟩
  exact ⟨longest, rest, hsplit, fun other rest hother => hlength ▸ hbound hother⟩

/-- The longest code is a given one, if the message that this leaves does not start in the same
way. -/
theorem LongestSplit.eq_iff {policy rest : List Char} (h : LongestSplit text code message)
    (hpolicy : Splits text policy rest) :
    (code = policy ∧ message = rest) ↔
      ¬ ∃ start more, rest = start ++ ':' :: more ∧ (∀ c ∈ start, IsNameChar c) ∧ more ≠ [] := by
  constructor
  · rintro ⟨rfl, rfl⟩ ⟨start, more, rfl, hstart, hmore⟩
    have hlonger : Splits text (code ++ ':' :: start) more := by
      refine ⟨by rw [h.text_eq]; simp, by simp, fun c hc => ?_, hmore⟩
      rcases List.mem_append.mp hc with hc | hc
      · exact h.isNameChar c hc
      · rcases List.mem_cons.mp hc with rfl | hc
        · exact .inr rfl
        · exact hstart c hc
    have hlength := h.longest _ _ hlonger
    rw [List.length_append, List.length_cons] at hlength
    omega
  · intro hnone
    have hlength := h.longest _ _ hpolicy
    have htext : policy ++ ':' :: rest = code ++ ':' :: message :=
      hpolicy.text_eq.symm.trans h.text_eq
    rcases List.append_eq_append_iff.mp htext with ⟨more, hcode, hrest⟩ | ⟨more, hcode, hrest⟩
    · cases more with
      | nil =>
          rw [List.nil_append, List.cons.injEq] at hrest
          exact ⟨by rw [hcode, List.append_nil], hrest.2.symm⟩
      | cons c start =>
          rw [List.cons_append, List.cons.injEq] at hrest
          refine absurd ⟨start, message, hrest.2, fun d hd => ?_, h.message_ne_nil⟩ hnone
          exact h.isNameChar d (hcode ▸ by simp [hd])
    · obtain rfl : more = [] := by
        rw [hcode, List.length_append] at hlength
        exact List.eq_nil_of_length_eq_zero (by omega)
      rw [List.nil_append, List.cons.injEq] at hrest
      exact ⟨by rw [hcode, List.append_nil], hrest.2⟩

/-! ## The pattern in a line -/

variable {w : Way}

/-- After a colon comes the message, up to the end of the line. -/
theorem ways_messageNode (hrest : w.place.rest = ':' :: message) (hne : message ≠ [])
    (hline : ∀ c ∈ message, Text.isBreak c = false) :
    ∃ v, messageNode.ways w = [v] ∧ (w.forth 1).Past v 5 message [] := by
  have hafter : (w.forth 1).place.rest = message := Way.rest_forth [':'] hrest
  rw [messageNode, Node.ways_literal [':'] hrest]
  exact Node.ways_toLineEnd 5 hafter hne hline

/-- Without a colon, or with nothing after it, there is no message. -/
theorem ways_messageNode_eq_nil
    (h : ∀ message, w.place.rest = ':' :: message → message = []) : messageNode.ways w = [] := by
  rw [messageNode]
  cases hrest : w.place.rest with
  | nil => rw [Node.ways, Node.ways, Way.literal_eq, hrest]; rfl
  | cons c rest =>
      by_cases hc : ':' = c
      · subst hc
        obtain rfl := h rest hrest
        have hafter : (w.forth 1).place.rest = [] := Way.rest_forth [':'] hrest
        rw [Node.ways_literal [':'] hrest]
        exact Node.ways_toLineEnd_nil 5 hafter
      · exact Node.ways_literal_of_ne (by rw [hrest]; rfl) hc

/-- The first way is the one with the longest code. -/
theorem head?_ways_policyNode (hrest : w.place.rest = text) (h : LongestSplit text code message)
    (hline : ∀ c ∈ message, Text.isBreak c = false) :
    ∃ u v, (policyNode.ways w).head? = some v ∧ w.Past u 4 code message ∧
      u.Past v 5 message [] := by
  have hpositive : 0 < code.length := List.length_pos_iff.mpr h.code_ne_nil
  have hchars : ∀ c ∈ code, nameChars.contains c = true :=
    fun c hc => (nameChars_contains c).mpr (h.isNameChar c hc)
  let run := text.takeWhile nameChars.contains
  have hrun : code.length ≤ run.length := by
    simp only [run]
    rw [h.text_eq, List.takeWhile_append_of_pos hchars, List.length_append]
    exact Nat.le_add_right _ _
  let onward : Way → List Way := fun u => messageNode.ways (u.save 9)
  -- Where a longer run is followed by a message it would be a longer code.
  have hlonger : ∀ j, code.length - 1 < j → j < run.length →
      onward ((w.save 8).forth (j + 1)) = [] := by
    intro j hj hjrun
    refine ways_messageNode_eq_nil fun rest hrest' => ?_
    have hdrop : text.drop (j + 1) = ':' :: rest :=
      (hrest ▸ Way.forth_place_rest (j + 1) w).symm.trans hrest'
    have htake : text.take (j + 1) = run.take (j + 1) := by
      obtain ⟨more, hmore⟩ : run <+: text := List.takeWhile_prefix _
      rw [← hmore, List.take_append_of_le_length hjrun]
    have hlength : (text.take (j + 1)).length = j + 1 := by
      rw [htake, List.length_take, Nat.min_eq_left hjrun]
    by_contra hne
    have hsplit : Splits text (text.take (j + 1)) rest := by
      refine ⟨by rw [← hdrop, List.take_append_drop], ?_, fun c hc => ?_, hne⟩
      · exact List.ne_nil_of_length_pos (by omega)
      · rw [htake] at hc
        refine (nameChars_contains c).mp ?_
        exact List.all_eq_true.mp List.all_takeWhile c (List.mem_of_mem_take hc)
    have hlongest := h.longest _ _ hsplit
    omega
  have hways : policyNode.ways w = ((Node.run nameChars).ways (w.save 8)).flatMap onward := by
    rw [policyNode, Node.ways, Node.ways, List.flatMap_map]
  have hcode := Way.past_group (hrest.trans h.text_eq) 4
  obtain ⟨stop, hstop, hmessage⟩ := ways_messageNode hcode.rest h.message_ne_nil hline
  have hfirst : onward ((w.save 8).forth (code.length - 1 + 1)) = [stop] := by
    rw [Nat.sub_add_cancel hpositive]
    exact hstop
  have hplace : (w.save 8).place.rest.takeWhile nameChars.contains = run :=
    congrArg (List.takeWhile _) hrest
  refine ⟨_, stop, ?_, hcode.forth [':'], hmessage⟩
  rw [hways, Node.flatMap_ways_run (i := code.length - 1) (by rw [hplace]; omega)
    (by rwa [hplace]), hfirst]
  rfl

/-! ## Violations -/

/-- A violation of a policy. The name of the policy is made of words. -/
structure Violation where
  line : UInt32
  column : UInt32
  severity : Nat
  words : List String
  message : String
  line_ne_zero : line ≠ 0
  severity_range : 1 ≤ severity ∧ severity ≤ 5
  words_ne_nil : words ≠ []
  word_ne_empty : ∀ word ∈ words, word ≠ ""
  isAsciiWord : ∀ word ∈ words, ∀ c ∈ word.toList, Text.isAsciiWord c = true
  message_ne_empty : message ≠ ""
  message_line : ∀ c ∈ message.toList, Text.isBreak c = false

/-- The format in which the built-in command asks for the violations. -/
def verboseFormat : String :=
  (Linter.perlcritic.command.dropWhile fun argument => argument ≠ "--verbose").tail.headD ""

namespace Violation

/-- The name of the policy. -/
def policy (v : Violation) : String := "::".intercalate v.words

/-- What is printed of a violation in a format, in which a letter after a percent sign stands for
one of its parts. -/
def printed (v : Violation) : List Char → List Char
  | '%' :: 'l' :: format => Nat.toDigits 10 v.line.toNat ++ v.printed format
  | '%' :: 'c' :: format => Nat.toDigits 10 v.column.toNat ++ v.printed format
  | '%' :: 's' :: format => Nat.toDigits 10 v.severity ++ v.printed format
  | '%' :: 'p' :: format => v.policy.toList ++ v.printed format
  | '%' :: 'm' :: format => v.message.toList ++ v.printed format
  | c :: format => c :: v.printed format
  | [] => []

/-- What perlcritic prints of some violations, one after the other. -/
def report (vs : List Violation) : String :=
  String.ofList (vs.flatMap fun v => v.printed verboseFormat.toList)

/-- The diagnostic that a violation stands for. -/
def diagnostic (v : Violation) : Diagnostic :=
  ⟨some (v.line - 1), v.column, v.column, .error, v.message, some v.policy⟩

/-- The policy and the message as they are printed. -/
def named (v : Violation) : List Char := v.policy.toList ++ ':' :: v.message.toList

/-- The diagnostic has the numbers of the violation, and the longest code that its policy and
message can be split into. -/
def ReadAs (v : Violation) (d : Diagnostic) : Prop :=
  ∃ code message, LongestSplit v.named code message ∧
    d = ⟨some (v.line - 1), v.column, v.column, .error, String.ofList message,
      some (String.ofList code)⟩

/-- The message does not start with word characters and colons that one more colon ends, with
something after it. -/
def Clear (v : Violation) : Prop :=
  ¬ ∃ start more,
    v.message.toList = start ++ ':' :: more ∧ (∀ c ∈ start, IsNameChar c) ∧ more ≠ []

/-! ### What is printed -/

/-- The line that is printed, without its end. -/
def record (v : Violation) : List Char :=
  Nat.toDigits 10 v.line.toNat ++ ':' :: (Nat.toDigits 10 v.column.toNat ++
    ':' :: (Nat.toDigits 10 v.severity ++ ':' :: v.named))

theorem printed_verboseFormat (v : Violation) :
    v.printed verboseFormat.toList = v.record ++ ['\n'] := by
  have hformat : verboseFormat.toList =
      ['%', 'l', ':', '%', 'c', ':', '%', 's', ':', '%', 'p', ':', '%', 'm', '\n'] := by
    decide +kernel
  rw [hformat]
  simp [printed, record, named]

variable (v : Violation)

/-- The severity is one digit. -/
theorem exists_digit_severity : ∃ c, Nat.toDigits 10 v.severity = [c] := by
  obtain ⟨-, hmost⟩ := v.severity_range
  rw [Nat.toDigits_of_lt_base (by omega)]
  exact ⟨_, rfl⟩

/-- Words with colons between them are a name. -/
theorem isNameChar_policy : ∀ c ∈ v.policy.toList, IsNameChar c := by
  have hwords : ∀ words : List (List Char), (∀ word ∈ words, ∀ c ∈ word, IsNameChar c) →
      ∀ c ∈ [':', ':'].intercalate words, IsNameChar c := by
    intro words
    induction words with
    | nil => simp
    | cons word words ih =>
        intro h
        cases words with
        | nil => simpa using h
        | cons next words =>
            intro c hc
            rw [List.intercalate_cons_cons, List.mem_append, List.mem_append] at hc
            rcases hc with (hc | hc) | hc
            · exact h word List.mem_cons_self c hc
            · right
              simpa using hc
            · exact ih (fun w hw => h w (List.mem_cons_of_mem _ hw)) c hc
  rw [policy, String.toList_intercalate]
  refine hwords _ fun word hword c hc => .inl ?_
  obtain ⟨text, htext, rfl⟩ := List.mem_map.mp hword
  exact Text.isWord_of_isAsciiWord (v.isAsciiWord text htext c hc)

theorem policy_ne_nil : v.policy.toList ≠ [] := by
  rw [policy, String.toList_intercalate]
  cases hwords : v.words with
  | nil => exact absurd hwords v.words_ne_nil
  | cons word words =>
      have hword : word.toList ≠ [] := by
        simpa using v.word_ne_empty word (hwords ▸ List.mem_cons_self)
      cases words with
      | nil => simpa using hword
      | cons next words =>
          rw [List.map_cons, List.map_cons, List.intercalate_cons_cons]
          simp [hword]

/-- The policy is one of the codes that can be split off. -/
theorem splits_named : Splits v.named v.policy.toList v.message.toList where
  text_eq := rfl
  code_ne_nil := v.policy_ne_nil
  isNameChar := v.isNameChar_policy
  message_ne_nil := by simpa using v.message_ne_empty

theorem not_isBreak_named : ∀ c ∈ v.named, Text.isBreak c = false := by
  intro c hc
  rcases List.mem_append.mp hc with hc | hc
  · exact isBreak_of_isNameChar (v.isNameChar_policy c hc)
  · rcases List.mem_cons.mp hc with rfl | hc
    · rfl
    · exact v.message_line c hc

/-- A violation is printed in one line. -/
theorem not_isBreak_record : ∀ c ∈ v.record, Text.isBreak c = false := by
  intro c hc
  simp only [record, List.mem_append, List.mem_cons] at hc
  rcases hc with hc | rfl | hc | rfl | hc | rfl | hc
  · exact Text.isBreak_of_mem_toDigits hc
  · rfl
  · exact Text.isBreak_of_mem_toDigits hc
  · rfl
  · exact Text.isBreak_of_mem_toDigits hc
  · rfl
  · exact v.not_isBreak_named c hc

/-! ### What is read -/

/-- A number with one digit is passed with the colon after it. -/
theorem ways_digit (index : Nat) {n : Nat} {digit : Char} {after : List Char} (next : Node)
    (hdigit : Nat.toDigits 10 n = [digit])
    (hrest : w.place.rest = Nat.toDigits 10 n ++ ':' :: after) :
    ∃ u, (Node.cat (.capture index (.set Text.decimals)) (.cat (.literal [':']) next)).ways w =
      next.ways u ∧ w.Past u index (Nat.toDigits 10 n) after := by
  have hdecimal : Text.decimals.contains digit = true :=
    Text.decimals_contains_toDigits n digit (hdigit ▸ List.mem_singleton_self digit)
  rw [hdigit] at hrest ⊢
  have hpast := Way.past_group hrest index
  refine ⟨_, ?_, hpast.forth [':']⟩
  rw [Node.ways_char index hrest hdecimal]
  exact Node.ways_literal [':'] hpast.rest

/-- Of the line of a violation the groups hold its numbers and the longest code that can be split
off. -/
theorem exists_onLine_record : ∃ m code message, perlcriticNode.onLine 5 v.record = some m ∧
    LongestSplit v.named code message ∧
    m.text? 1 = some (String.ofList (Nat.toDigits 10 v.line.toNat)) ∧
    m.text? 2 = some (String.ofList (Nat.toDigits 10 v.column.toNat)) ∧
    m.text? 4 = some (String.ofList code) ∧ m.text? 5 = some (String.ofList message) := by
  obtain ⟨code, message, hsplit⟩ := v.splits_named.exists_longestSplit
  obtain ⟨digit, hdigit⟩ := v.exists_digit_severity
  have hbreak : ∀ c ∈ message, Text.isBreak c = false := by
    intro c hc
    exact v.not_isBreak_named c (hsplit.text_eq ▸ by simp [hc])
  -- The line, the column and the severity are passed one after the other.
  let start : Way := ⟨.start v.record, [(0, .start v.record)]⟩
  obtain ⟨atColumn, hline, hpastLine⟩ :=
    Node.ways_number (w := start) (n := v.line.toNat) 1 ':' [] Text.decimals_colon rfl
  obtain ⟨atSeverity, hcolumn, hpastColumn⟩ :=
    Node.ways_number 2 ':' [] Text.decimals_colon hpastLine.rest
  obtain ⟨atName, hseverity, hpastSeverity⟩ := ways_digit 3 policyNode hdigit hpastColumn.rest
  obtain ⟨atMessage, stop, hname, hpastCode, hpastMessage⟩ :=
    head?_ways_policyNode hpastSeverity.rest hsplit hbreak
  have hways : perlcriticNode.ways start = policyNode.ways atName := by
    rw [perlcriticNode, Node.ways_lineStart, hline, hcolumn, hseverity]
  have hholds : stop.Holds [(5, message), (4, code), (3, Nat.toDigits 10 v.severity),
      (2, Nat.toDigits 10 v.column.toNat), (1, Nat.toDigits 10 v.line.toNat)] := by
    refine hpastMessage.holds (hpastCode.holds (hpastSeverity.holds (hpastColumn.holds
      hpastLine.holds_singleton ?_) ?_) ?_) ?_ <;> simp
  obtain ⟨m, hm, htexts⟩ := Node.exists_onLine_of_holds 5
    ((congrArg List.head? hways).trans hname) hholds (by simp)
  simp only [List.forall_mem_cons] at htexts
  obtain ⟨hmessageText, hcodeText, -, hcolumnText, hlineText, -⟩ := htexts
  exact ⟨m, code, message, hm, hsplit, hlineText, hcolumnText, hcodeText, hmessageText⟩

theorem exists_readAs : ∃ m, perlcriticNode.onLine 5 v.record = some m ∧
    v.ReadAs (perlcriticExtractor.diagnostic m) := by
  obtain ⟨m, code, message, hm, hsplit, hline, hcolumn, hcode, hmessage⟩ := v.exists_onLine_record
  exact ⟨m, hm, code, message, hsplit,
    Extractor.diagnostic_of_texts (e := perlcriticExtractor) rfl
    v.line_ne_zero hline hcolumn hmessage hcode⟩

/-- What is read is the violation itself if and only if its message is clear. -/
theorem ReadAs.eq_diagnostic_iff {d : Diagnostic} (h : v.ReadAs d) :
    d = v.diagnostic ↔ v.Clear := by
  obtain ⟨code, message, hsplit, rfl⟩ := h
  rw [Clear, ← hsplit.eq_iff v.splits_named, ← String.toList_ofList (l := code),
    ← String.toList_ofList (l := message), String.toList_inj, String.toList_inj]
  simp [diagnostic, and_comm]

/-- The built-in extractor makes one diagnostic of every violation that is printed, in order, with
its numbers and the longest code that can be split off. These are the violations themselves if and
only if every message is clear. -/
theorem perlcritic_report (vs : List Violation) : ∃ e,
    ProfileSettings.unchanged.extractor .perlcritic = .ok e ∧
      List.Forall₂ ReadAs vs (e.extract (report vs)) ∧
      (e.extract (report vs) = vs.map diagnostic ↔ ∀ v ∈ vs, v.Clear) := by
  refine ⟨perlcriticExtractor, extractor_perlcritic, ?_⟩
  choose found hfound hread using exists_readAs
  have hempty : perlcriticNode.onLine 5 [] = none := by decide +kernel
  have hextract : perlcriticExtractor.extract (report vs) =
      vs.map fun v => perlcriticExtractor.diagnostic (found v) := by
    simp only [report, printed_verboseFormat]
    exact Extractor.extract_report perlcriticNode_linewise rfl hempty not_isBreak_record hfound vs
  rw [hextract]
  constructor
  · rw [List.forall₂_map_right_iff, List.forall₂_same]
    exact fun v _ => hread v
  · rw [List.map_inj_left]
    exact forall₂_congr fun v _ => (hread v).eq_diagnostic_iff

/-- A violation whose message has a colon after its first word. -/
def colonAfterWord : Violation where
  line := 1
  column := 2
  severity := 3
  words := ["A", "B"]
  message := "foo: bar"
  line_ne_zero := by decide
  severity_range := by decide
  words_ne_nil := by decide
  word_ne_empty := by decide
  isAsciiWord := by
    have hall : (["A", "B"].all fun word => word.toList.all Text.isAsciiWord) = true := by decide
    simpa only [List.all_eq_true] using hall
  message_ne_empty := by decide
  message_line := by
    have hall : ("foo: bar".toList.all fun c => Text.isBreak c = false) = true := by decide
    simpa only [List.all_eq_true, decide_eq_true_eq] using hall

/-- The first word of such a message is read as a part of the policy. -/
theorem perlcritic_report_colonAfterWord : ∃ e,
    ProfileSettings.unchanged.extractor .perlcritic = .ok e ∧
      report [colonAfterWord] = "1:2:3:A::B:foo: bar\n" ∧
      colonAfterWord.diagnostic = ⟨some 0, 2, 2, .error, "foo: bar", some "A::B"⟩ ∧
      e.extract (report [colonAfterWord]) = [⟨some 0, 2, 2, .error, " bar", some "A::B:foo"⟩] ∧
      e.extract (report [colonAfterWord]) ≠ [colonAfterWord].map diagnostic := by
  have hextract : perlcriticExtractor.extract (report [colonAfterWord]) =
      [⟨some 0, 2, 2, .error, " bar", some "A::B:foo"⟩] := by decide +kernel
  refine ⟨perlcriticExtractor, extractor_perlcritic, by decide +kernel, by decide +kernel,
    hextract, ?_⟩
  rw [hextract]
  decide +kernel

end Violation

end Perlcritic

end ContainerLint
