import ContainerLint.Proofs.Settings.Surfaces
import ContainerLint.Proofs.Value.Sorted
import ContainerLint.Server.Step
import Mathlib.Data.List.Forall2

/-!
# What of a payload matters

An editor sends more than the settings of the linter, and the settings may hold more than is
known. `Padded` says how members are put between those of an object without a meaning of their
own: unknown ones, and such that say `null` for a field that is not set. Reading a record looks at
a member only by the name of a field, so it does not see them (`Padded.checkMembers_eq`,
`Padded.optional_eq`). `payload_section_only` follows for the settings that an editor sends, and
for what becomes of a server that is sent them.
-/

namespace ContainerLint

namespace Decode

/-- Members with more members between them, in a record with known fields. Those that are kept may
hold values that are the same in some sense. More members are unknown, or they say `null` under a
name that is not among the present ones. -/
inductive Padded (known present : List String) (same : String → Value → Value → Prop) :
    List (String × Value) → List (String × Value) → Prop
  | nil : Padded known present same [] []
  | kept (name : String) (v v' : Value) {members others : List (String × Value)}
      (h : same name v v') (hrest : Padded known present same members others) :
      Padded known present same ((name, v) :: members) ((name, v') :: others)
  | unknown (name : String) (v : Value) {members others : List (String × Value)}
      (h : name ∉ known) (hrest : Padded known present same members others) :
      Padded known present same members ((name, v) :: others)
  | unset (name : String) {members others : List (String × Value)} (h : name ∉ present)
      (hrest : Padded known present same members others) :
      Padded known present same members ((name, .null) :: others)

namespace Padded

variable {known present : List String} {same : String → Value → Value → Prop}
  {members others : List (String × Value)} {checks : List (String × (Value → Decoded Unit))}
  {name : String}

/-- If the checks take `null`, they find the same fault as without more members, or none. -/
theorem checkMembers_eq (h : Padded (checks.map Prod.fst) present same members others)
    (hnull : ∀ test ∈ checks, test.2 .null = .ok ())
    (hsame : ∀ name v v' test, same name v v' → checks.lookup name = some test →
      test v' = test v) :
    checkMembers checks others = checkMembers checks members := by
  induction h with
  | nil => rfl
  | kept name v v' h _ ih =>
      rw [checkMembers, checkMembers, ih]
      cases htest : checks.lookup name with
      | none => rfl
      | some test =>
          simp only [hsame name v v' test h htest]
  | unknown name v h _ ih =>
      rw [checkMembers, Value.lookup_eq_none h, ih]
      rfl
  | unset name _ _ ih =>
      rw [checkMembers, ih]
      cases htest : checks.lookup name with
      | none => rfl
      | some test =>
          obtain ⟨before, after, hchecks, -⟩ := List.lookup_eq_some_iff.mp htest
          have htaken : test .null = .ok () := hnull (name, test) (by simp [hchecks])
          simp only [htaken]
          rfl

/-- Under a known name the same stands as without more members; or nothing stood there, and now
perhaps `null`. -/
theorem lookup_cases (h : Padded known present same members others)
    (hpresent : ∀ m ∈ members, m.1 ∈ present) (hname : name ∈ known) :
    (∃ v v', members.lookup name = some v ∧ others.lookup name = some v' ∧ same name v v') ∨
      members.lookup name = none ∧
        (others.lookup name = none ∨ others.lookup name = some .null) := by
  induction h with
  | nil => exact .inr ⟨rfl, .inl rfl⟩
  | kept other v v' h _ ih =>
      rw [lookup_cons_ite, lookup_cons_ite]
      by_cases heq : name = other
      · subst heq
        exact .inl ⟨v, v', if_pos rfl, if_pos rfl, h⟩
      · rw [if_neg heq, if_neg heq]
        exact ih fun m hm => hpresent m (List.mem_cons_of_mem _ hm)
  | unknown other v h _ ih =>
      have hne : name ≠ other := fun heq => h (heq ▸ hname)
      rw [lookup_cons_ite other, if_neg hne]
      exact ih hpresent
  | @unset other members _ h _ ih =>
      rw [lookup_cons_ite other]
      by_cases heq : name = other
      · subst heq
        have hnone : members.lookup name = none := Value.lookup_eq_none fun hmem => by
          obtain ⟨m, hm, rfl⟩ := List.mem_map.mp hmem
          exact h (hpresent m hm)
        exact .inr ⟨hnone, .inr (if_pos rfl)⟩
      · rw [if_neg heq]
        exact ih hpresent

/-- So a field that may be left out is read as without more members. -/
theorem optional_eq (h : Padded known (members.map Prod.fst) same members others) {α : Type}
    {read : Value → Decoded α} (hname : name ∈ known)
    (hread : ∀ v v', same name v v' → option read v' = option read v) (i : Nat) :
    (Fields.ofMembers others).optional i name read =
      (Fields.ofMembers members).optional i name read := by
  simp only [Fields.optional, Fields.ofMembers]
  rcases h.lookup_cases (fun m hm => List.mem_map_of_mem hm) hname with
    ⟨v, v', hmember, hother, hsame⟩ | ⟨hmember, hother | hother⟩
  · simp only [hmember, hother, hread v v' hsame]
  · simp only [hmember, hother]
  · simp only [hmember, hother]
    rfl

end Padded

/-- What may be absent is read alike if it is read alike where it is there. -/
theorem option_congr {α : Type} {read : Value → Decoded α} {v v' : Value}
    (hnull : v' = .null ↔ v = .null) (h : read v' = read v) : option read v' = option read v := by
  by_cases hv : v = .null
  · rw [hv, hnull.mpr hv]
  · have hv' : v' ≠ .null := mt hnull.mp hv
    have hoption : ∀ u, u ≠ .null → option read u = (read u).map some := by
      intro u hu
      cases u with
      | null => exact absurd rfl hu
      | bool | int | float | str | arr | obj => rfl
    rw [hoption v hv, hoption v' hv', h]

end Decode

open Decode

/-- The names of the fields of a profile. -/
def ProfileSettings.fieldNames : List String := checks.map Prod.fst

/-- The names of the fields of settings. -/
def Settings.fieldNames : List String := checks.map Prod.fst

/-- A profile in settings, perhaps with more members. -/
inductive ProfileEntry.Padded : Value → Value → Prop
  | same (v : Value) : Padded v v
  | object {members others : List (String × Value)}
      (h : Decode.Padded ProfileSettings.fieldNames (members.map Prod.fst) (fun _ => Eq)
        members others) : Padded (.obj members) (.obj others)

/-- What stands under a name in settings. Under that of a linter a profile may have more
members. -/
inductive Settings.PaddedUnder (name : String) : Value → Value → Prop
  | same (v : Value) : PaddedUnder name v v
  | profile (l : Linter) (h : name = l.name) {v v' : Value} (hpadded : ProfileEntry.Padded v v') :
      PaddedUnder name v v'

/-- Settings, perhaps with more members, in the profiles too. Settings that are written as an
array have no members of their own; the profiles come after the name of the active one. -/
inductive Settings.Padded : Value → Value → Prop
  | same (v : Value) : Padded v v
  | object {members others : List (String × Value)}
      (h : Decode.Padded Settings.fieldNames (members.map Prod.fst) Settings.PaddedUnder
        members others) : Padded (.obj members) (.obj others)
  | array (active : Value) {entries others : List Value}
      (h : List.Forall₂ ProfileEntry.Padded entries others) :
      Padded (.arr (active :: entries)) (.arr (active :: others))

/-! ## Profiles -/

theorem ProfileSettings.decode_obj_congr {members others : List (String × Value)}
    (h : Decode.Padded fieldNames (members.map Prod.fst) (fun _ => Eq) members others) :
    decode (.obj others) = decode (.obj members) := by
  have hchecks : checkMembers checks others = checkMembers checks members := by
    refine h.checkMembers_eq (fun test htest => ?_) fun name v v' test heq _ => by rw [heq]
    simp only [checks, List.mem_cons, List.not_mem_nil, or_false] at htest
    rcases htest with rfl | rfl | rfl | rfl | rfl | rfl | rfl | rfl | rfl <;> rfl
  have hfield : ∀ {α : Type} (i : Nat) (name : String) (read : Value → Decoded α),
      name ∈ fieldNames → (Fields.ofMembers others).optional i name read =
        (Fields.ofMembers members).optional i name read :=
    fun i name read hname => h.optional_eq hname (fun v v' heq => by rw [heq]) i
  simp (disch := decide) only [decode, record, hchecks, hfield]

theorem ProfileEntry.Padded.decode_eq {v v' : Value} (h : Padded v v') :
    ProfileEntry.decode v' = ProfileEntry.decode v := by
  cases h with
  | same => rfl
  | object h => simp only [decode, ProfileSettings.decode_obj_congr h]

theorem ProfileEntry.Padded.option_eq {v v' : Value} (h : Padded v v') :
    option ProfileEntry.decode v' = option ProfileEntry.decode v := by
  refine option_congr ?_ h.decode_eq
  cases h with
  | same => exact Iff.rfl
  | object => simp

/-! ## Settings -/

namespace Settings

theorem PaddedUnder.eq_of_active {v v' : Value} (h : PaddedUnder "activeProfile" v v') :
    v = v' := by
  cases h with
  | same => rfl
  | profile l hname => cases l <;> exact absurd hname (by decide)

theorem PaddedUnder.option_eq {name : String} {v v' : Value} (h : PaddedUnder name v v') :
    option ProfileEntry.decode v' = option ProfileEntry.decode v := by
  cases h with
  | same => rfl
  | profile _ _ hpadded => exact hpadded.option_eq

theorem decode_obj_congr {members others : List (String × Value)}
    (h : Decode.Padded fieldNames (members.map Prod.fst) PaddedUnder members others) :
    decode (.obj others) = decode (.obj members) := by
  have hchecks : checkMembers checks others = checkMembers checks members := by
    refine h.checkMembers_eq (fun test htest => ?_) fun name v v' test hsame htest => ?_
    · simp only [checks, List.mem_cons, List.not_mem_nil, or_false] at htest
      rcases htest with rfl | rfl | rfl | rfl | rfl | rfl <;> rfl
    · cases hsame with
      | same => rfl
      | profile l hname hpadded =>
          have hentry : checks.lookup l.name = some (check (option ProfileEntry.decode)) := by
            cases l <;> rfl
          cases (hname ▸ htest).symm.trans hentry
          rw [check, check, hpadded.option_eq]
  have hactive : (Fields.ofMembers others).optional 0 "activeProfile" text =
      (Fields.ofMembers members).optional 0 "activeProfile" text :=
    h.optional_eq (by decide) (fun v v' hsame => by rw [hsame.eq_of_active]) 0
  have hentry : ∀ (i : Nat) (name : String), name ∈ fieldNames →
      (Fields.ofMembers others).optional i name ProfileEntry.decode =
        (Fields.ofMembers members).optional i name ProfileEntry.decode :=
    fun i name hname => h.optional_eq hname (fun v v' hsame => hsame.option_eq) i
  simp (disch := decide) only [decode, record, hchecks, hactive, hentry]

theorem decode_arr_congr (active : Value) {entries others : List Value}
    (h : List.Forall₂ ProfileEntry.Padded entries others) :
    decode (.arr (active :: others)) = decode (.arr (active :: entries)) := by
  have hfound : ∀ {entries others : List Value}, List.Forall₂ ProfileEntry.Padded entries others →
      ∀ i : Nat, (others[i]?).map (option ProfileEntry.decode) =
        (entries[i]?).map (option ProfileEntry.decode) := by
    intro entries others h
    induction h with
    | nil => exact fun _ => rfl
    | cons hpadded _ ih =>
        intro i
        cases i with
        | zero => exact congrArg some hpadded.option_eq
        | succ i => exact ih i
  have hoptional : ∀ (items : List Value) (i : Nat) (name : String),
      (Fields.ofItems "Settings" checks.length items).optional i name ProfileEntry.decode =
        ((items[i]?).map (option ProfileEntry.decode)).getD (.ok none) := by
    intro items i name
    simp only [Fields.optional, Fields.ofItems]
    cases items[i]? <;> rfl
  have hentry : ∀ (i : Nat) (name : String),
      (Fields.ofItems "Settings" checks.length (active :: others)).optional (i + 1) name
          ProfileEntry.decode =
        (Fields.ofItems "Settings" checks.length (active :: entries)).optional (i + 1) name
          ProfileEntry.decode := by
    intro i name
    rw [hoptional, hoptional, List.getElem?_cons_succ, List.getElem?_cons_succ, hfound h]
  have hactive : (Fields.ofItems "Settings" checks.length (active :: others)).optional 0
      "activeProfile" text =
        (Fields.ofItems "Settings" checks.length (active :: entries)).optional 0
          "activeProfile" text := rfl
  have hlength : (active :: others).length = (active :: entries).length := by
    rw [List.length_cons, List.length_cons, h.length_eq]
  simp only [decode, record, hactive, hentry 0, hentry 1, hentry 2, hentry 3, hentry 4, hlength]

theorem Padded.decode_eq {v v' : Value} (h : Padded v v') : decode v' = decode v := by
  cases h with
  | same => rfl
  | object h => exact decode_obj_congr h
  | array active h => exact decode_arr_congr active h

/-! ## Payloads -/

/-- With one section on both sides, the same is read if these are the same up to more members. -/
theorem ofPayload_congr {members others : List (String × Value)} {name name' : String}
    {tree tree' : Value}
    (hmembers : (members.filter fun m => isSectionName m.1) = [(name, tree)])
    (hothers : (others.filter fun m => isSectionName m.1) = [(name', tree')])
    (h : Padded tree tree') : ofPayload (.obj others) = ofPayload (.obj members) := by
  rw [ofPayload_section hmembers, ofPayload_section hothers, h.decode_eq]

/-- With both names a payload is refused. -/
theorem ofPayload_both {members : List (String × Value)} {tree tree' : Value}
    (h : (sectionName, tree) ∈ members) (h' : (otherSectionName, tree') ∈ members) :
    ∃ m, ofPayload (.obj members) = .error m := by
  have hmem : (sectionName, tree) ∈ members.filter fun m => isSectionName m.1 :=
    List.mem_filter.mpr ⟨h, rfl⟩
  have hmem' : (otherSectionName, tree') ∈ members.filter fun m => isSectionName m.1 :=
    List.mem_filter.mpr ⟨h', rfl⟩
  have hnames : ∀ m ∈ members.filter fun m => isSectionName m.1,
      m.1 = sectionName ∨ m.1 = otherSectionName := by
    intro m hm
    simpa [isSectionName] using (List.mem_filter.mp hm).2
  rw [ofPayload, ← sectionOf_filter]
  rcases hsections : members.filter fun m => isSectionName m.1 with
    - | ⟨⟨name, v⟩, - | ⟨⟨name', v'⟩, rest⟩⟩ <;> rw [hsections] at hmem hmem' hnames
  · cases hmem
  · have hne : sectionName ≠ otherSectionName := by decide
    rw [← List.mem_singleton.mp hmem'] at hmem
    exact absurd (congrArg Prod.fst (List.mem_singleton.mp hmem)) hne
  · have hfirst : name = sectionName ∨ name = otherSectionName := hnames _ List.mem_cons_self
    have hsecond : name' = sectionName ∨ name' = otherSectionName :=
      hnames _ (List.mem_cons_of_mem _ List.mem_cons_self)
    simp only [hsections, sectionOf, hfirst, hsecond, if_true]
    cases decode v with
    | error m => exact ⟨m, rfl⟩
    | ok s => exact ⟨_, rfl⟩

/-- Without a section nothing is set. -/
theorem ofPayload_none {members : List (String × Value)}
    (h : ∀ m ∈ members, isSectionName m.1 = false) : ofPayload (.obj members) = .ok .empty := by
  have hnil : (members.filter fun m => isSectionName m.1) = [] :=
    List.filter_eq_nil_iff.mpr fun m hm => by simp [h m hm]
  rw [ofPayload, ← sectionOf_filter, hnil]
  rfl

end Settings

/-- What a change of settings does depends on nothing but the settings that are read. -/
theorem Server.step_configured_congr {payload payload' : Value}
    (h : Settings.ofPayload payload' = Settings.ofPayload payload) (s : Server.State) :
    Server.step s (.configured payload') = Server.step s (.configured payload) := by
  rw [Server.step, Server.step, Server.State.configure, Server.State.configure, h]

open Settings

/-- Of an object that an editor sends only the section matters, under either name, whatever other
members there are; and in the section, and in the profiles in it, unknown members do not matter,
nor such that say `null` for a field that is not set. The same settings are read then, or the same
fault is found, and a server that is sent them does the same. With sections under both names an
object is refused, and nothing changes. Without a section, as with `null` for everything, nothing
is set. -/
theorem payload_section_only :
    (∀ members others name name' tree tree',
      (members.filter fun m => isSectionName m.1) = [(name, tree)] →
        (others.filter fun m => isSectionName m.1) = [(name', tree')] →
          Settings.Padded tree tree' →
            ofPayload (.obj others) = ofPayload (.obj members) ∧
              ∀ s, Server.step s (.configured (.obj others)) =
                Server.step s (.configured (.obj members))) ∧
    (∀ members tree tree', (sectionName, tree) ∈ members → (otherSectionName, tree') ∈ members →
      ∃ m, ofPayload (.obj members) = .error m ∧
        ∀ s, Server.step s (.configured (.obj members)) =
          (s, [.showError (Server.State.unreadableText m)])) ∧
    ofPayload .null = .ok .empty ∧
    ∀ members, (∀ m ∈ members, isSectionName m.1 = false) →
      ofPayload (.obj members) = .ok .empty := by
  refine ⟨fun members others name name' tree tree' hmembers hothers h => ?_,
    fun members tree tree' h h' => ?_, rfl, fun members h => ofPayload_none h⟩
  · have hread := ofPayload_congr hmembers hothers h
    exact ⟨hread, Server.step_configured_congr hread⟩
  · obtain ⟨m, hm⟩ := ofPayload_both h h'
    refine ⟨m, hm, fun s => ?_⟩
    rw [Server.step, Server.State.configure, hm]

/-- The section is renamed, and members are added on all levels. -/
theorem payload_section_only_renamed :
    let profile : Value := .obj [("colour", .int 1), ("container", .str "py"), ("pattern", .null)]
    let tree : Value :=
      .obj [("activeProfile", .null), ("editor", .str "vi"), ("flake8", profile)]
    let others := [("docker-linter", tree), ("editor", .null)]
    ofPayload (.obj others) =
      .ok { empty with
        flake8 := some (.custom { ProfileSettings.unchanged with container := some "py" }) } := by
  intro profile tree others
  let plain : Value := .obj [("container", .str "py")]
  have hprofile : ProfileEntry.Padded plain profile :=
    .object (.unknown _ _ (by decide) (.kept _ _ _ rfl (.unset _ (by decide) .nil)))
  have htree : Settings.Padded (.obj [("flake8", plain)]) tree :=
    .object (.unset _ (by decide) (.unknown _ _ (by decide)
      (.kept _ _ _ (.profile .flake8 rfl hprofile) .nil)))
  have hothers : (others.filter fun m => isSectionName m.1) = [("docker-linter", tree)] := by rfl
  obtain ⟨hread, -⟩ := payload_section_only.1
    [("dockerLinter", .obj [("flake8", plain)])] others _ _ _ _ rfl hothers htree
  exact hread

end ContainerLint
