import TextTemplate.Proofs.Shapes

/-!
# Letter case in paths

Where case does not count, names are the same if their lower-case forms are. This is an equivalence,
and every look-up goes by it, so a path leads to the same value in whatever case its selectors are
written. A selector that is an integer is in lower case already, so being an integer does not depend
on case.

Dynamic records answer for themselves. They are asked to tell names apart by the case mode only, and
so are all records that a value holds, since a path may come to any of them.
-/

namespace TextTemplate

/-! ## Names -/

namespace CaseSensitivity

theorem integer?_eq_of_same {case : CaseSensitivity} {a b : String} (h : case.same a b = true) :
    Selector.integer? b = Selector.integer? a := by
  cases ha : Selector.integer? a with
  | some n => rw [case.eq_of_same (Option.isSome_of_eq_some ha) h, ha]
  | none =>
    cases hb : Selector.integer? b with
    | none => rfl
    | some n =>
      have hsymm := case.equivalence_same.symm h
      rw [case.eq_of_same (Option.isSome_of_eq_some hb) hsymm, hb] at ha
      exact absurd ha nofun

end CaseSensitivity

/-- Two selectors that are the same but for letter case. -/
structure Selector.Recased (s s' : Selector) : Prop where
  kind : s'.kind = s.kind
  text : CaseSensitivity.insensitive.same s.text s'.text = true

namespace Selector.Recased

variable {s s' : Selector}

theorem index? (h : s.Recased s') : s'.index? = s.index? := by
  rw [Selector.index?, Selector.index?, h.kind]

theorem asIndex (h : s.Recased s') : s.asIndex.Recased s'.asIndex := by
  obtain ⟨text, kind, span⟩ := s
  obtain ⟨text', kind', span'⟩ := s'
  obtain ⟨rfl, htext⟩ := h
  cases kind' <;> exact ⟨rfl, htext⟩

end Selector.Recased

/-! ## Records that compare names -/

/-- Answers of a record that are the same but for the name or the message in them. -/
inductive MemberError.Alike : Except MemberError Value → Except MemberError Value → Prop
  | found (v : Value) : Alike (.ok v) (.ok v)
  | missing (name name' : String) : Alike (.error (.missing name)) (.error (.missing name'))
  | failed (message message' : String) :
      Alike (.error (.failed message)) (.error (.failed message'))

/-- A record gives the same answer for names that are the same under the case mode. -/
def DynamicRecord.ComparesNames (r : DynamicRecord) : Prop :=
  ∀ case a b, CaseSensitivity.same case a b = true →
    MemberError.Alike (r.member a case) (r.member b case)

/-- A record with a fixed set of members compares names, also where a missing one is a failure. -/
theorem DynamicRecord.comparesNames_ofMembers (members : List (String × Value))
    (failure text : Option String) : (ofMembers members failure text).ComparesNames := by
  intro case a b h
  simp only [ofMembers, CaseSensitivity.same_eq_of_same h]
  cases TextTemplate.findMember? members (case.same b) with
  | some v => exact .found v
  | none =>
    cases failure with
    | none => exact .missing a b
    | some message => exact .failed _ _

theorem Record.comparesNames (r : Record) (text : String) :
    DynamicRecord.ComparesNames ⟨r.member, text⟩ := by
  intro case a b h
  have hanswer : ∀ found : Option Value, MemberError.Alike
      (found.elim (.error (.missing a)) .ok) (found.elim (.error (.missing b)) .ok) := by
    intro found
    cases found with
    | some v => exact .found v
    | none => exact .missing a b
  cases case with
  | sensitive =>
    obtain rfl : a = b := eq_of_beq h
    exact hanswer _
  | insensitive =>
    simp only [Record.member, CaseSensitivity.same_eq_of_same h]
    exact hanswer _

/-- The records that a value holds: itself, and those among its items, values, members and
answers. -/
inductive Value.Holds : Value → DynamicRecord → Prop
  | itself (r : DynamicRecord) : Holds (.record r) r
  | item {items : List Value} {v : Value} {r : DynamicRecord} : v ∈ items → Holds v r →
      Holds (.list items) r
  | value {m : OrderedMap Key Value} {e : Key × Value} {r : DynamicRecord} : e ∈ m.entries →
      Holds e.2 r → Holds (.map m) r
  | member {o : TypedObject} {name : String} {v : Value} {r : DynamicRecord} :
      o.member name = some v → Holds v r → Holds (.object o) r
  | answer {s r : DynamicRecord} {name : String} {case : CaseSensitivity} {v : Value} :
      s.member name case = .ok v → Holds v r → Holds (.record s) r

/-- All records that a value holds compare names. -/
def Value.ComparesNames (v : Value) : Prop := ∀ r, v.Holds r → r.ComparesNames

/-- A record compares names all the way down if its fields do. -/
theorem Value.comparesNames_toValue {r : Record} (h : ∀ e ∈ r.entries, e.2.ComparesNames) :
    r.toValue.ComparesNames := by
  intro s hs
  cases hs with
  | itself => exact r.comparesNames "Record"
  | @answer _ _ name case v hanswer hs =>
    have hfound : ∀ found : Option Value,
        found.elim (Except.error (MemberError.missing name)) Except.ok = Except.ok v →
          found = some v := by
      intro found hfound
      cases found with
      | none => exact absurd hfound nofun
      | some v' => rw [Except.ok.inj hfound]
    obtain ⟨e, he, rfl⟩ : ∃ e ∈ r.entries, e.2 = v := by
      cases case with
      | sensitive => exact OrderedMap.exists_of_findFirst? (hfound _ hanswer)
      | insensitive => exact OrderedMap.exists_of_findFirst? (hfound _ hanswer)
    exact h e he s hs

/-! ## Sources -/

/-- Reasons that are the same but for the message of a source. -/
inductive ResolutionErrorKind.Alike : ResolutionErrorKind → ResolutionErrorKind → Prop
  | refl (kind : ResolutionErrorKind) : Alike kind kind
  | source (message message' : String) : Alike (.source message) (.source message')

/-- Outcomes that are the same but for the message of a source. -/
inductive SourceOutcome.Recased : SourceOutcome → SourceOutcome → Prop
  | same (outcome : SourceOutcome) : Recased outcome outcome
  | error {kind kind' : ResolutionErrorKind} : kind.Alike kind' →
      Recased (.error kind) (.error kind')

namespace SourceChain

/-- What a selector leads to without regard to case does not depend on the case in it. -/
theorem recased_resolve {s s' : Selector} (hs : s.Recased s') {v : Value} (hv : v.ComparesNames) :
    SourceOutcome.Recased (builtin.resolve s v .insensitive)
      (builtin.resolve s' v .insensitive) := by
  have hsame := CaseSensitivity.same_eq_of_same hs.text
  cases v with
  | object o =>
    rw [builtin_object, builtin_object, hs.kind, ValueSource.findMember?, ValueSource.findMember?,
      hsame]
    exact .same _
  | map m =>
    have hkeys : ValueSource.keyMatches s = ValueSource.keyMatches s' := by
      funext key
      cases key with
      | str k => rw [ValueSource.keyMatches, ValueSource.keyMatches, hsame]
      | int n => rw [ValueSource.keyMatches, ValueSource.keyMatches, hs.index?]
    rw [builtin_map, builtin_map, ValueSource.findKey?, ValueSource.findKey?, hkeys]
    exact .same _
  | record r =>
    have hanswer := hv r (.itself r) .insensitive s.text s'.text hs.text
    rw [builtin_record, builtin_record, ValueSource.askRecord, ValueSource.askRecord]
    generalize r.member s.text .insensitive = answer at hanswer ⊢
    generalize r.member s'.text .insensitive = answer' at hanswer ⊢
    cases hanswer with
    | found v => exact .same _
    | missing name name' => exact .same _
    | failed message message' => exact .error (.source message message')
  | list items =>
    rw [builtin_list, builtin_list, ValueSource.findItem, ValueSource.findItem, hs.index?]
    exact .same _
  | null => exact .same _
  | bool b => exact .same _
  | int n => exact .same _
  | float x => exact .same _
  | str text => exact .same _

end SourceChain

theorem SourceOutcome.eq_some_of_ofFound {found : Option Value} {v : Value}
    (h : ofFound found = .resolved v) : found = some v := by
  cases found with
  | none => cases h
  | some v' => exact congrArg some (resolved.inj h)

namespace ValueSource

variable {s : Selector} {case : CaseSensitivity} {v : Value}

theorem exists_of_findMember? {o : TypedObject} (h : findMember? o s case = some v) :
    ∃ name, o.member name = some v := by
  cases case with
  | sensitive => exact ⟨s.text, h⟩
  | insensitive =>
    obtain ⟨name, _, hname⟩ := Option.bind_eq_some_iff.mp h
    exact ⟨name, hname⟩

theorem exists_of_findKey? {m : OrderedMap Key Value} (h : findKey? m s case = some v) :
    ∃ e ∈ m.entries, e.2 = v := by
  cases case with
  | insensitive => exact OrderedMap.exists_of_findFirst? h
  | sensitive =>
    rcases Option.or_eq_some_iff.mp h with htext | ⟨_, hindex⟩
    · exact OrderedMap.exists_of_findFirst? htext
    · obtain ⟨n, _, hn⟩ := Option.bind_eq_some_iff.mp hindex
      exact OrderedMap.exists_of_findFirst? hn

theorem member_of_askRecord {r : DynamicRecord} (h : askRecord r s case = .resolved v) :
    r.member s.text case = .ok v := by
  rw [askRecord] at h
  cases hanswer : r.member s.text case with
  | ok v' =>
    rw [hanswer] at h
    rw [SourceOutcome.resolved.inj h]
  | error e =>
    rw [hanswer] at h
    cases e <;> cases h

theorem mem_of_findItem {items : List Value} (h : findItem items s = .resolved v) : v ∈ items := by
  rw [findItem] at h
  cases hindex : s.index? with
  | none =>
    rw [hindex] at h
    cases h
  | some n =>
    simp only [hindex] at h
    by_cases hn : n < 0
    · rw [if_pos hn] at h
      cases h
    · rw [if_neg hn] at h
      cases hitem : items[n.toInt.toNat]? with
      | none =>
        rw [hitem] at h
        cases h
      | some v' =>
        rw [hitem] at h
        rw [← SourceOutcome.resolved.inj h]
        exact List.mem_of_getElem? hitem

end ValueSource

/-- What a selector leads to holds no records but those that the value held. -/
theorem Value.Holds.of_resolve {v w : Value} {s : Selector} {case : CaseSensitivity}
    (h : SourceChain.builtin.resolve s v case = .resolved w) {r : DynamicRecord}
    (hr : w.Holds r) : v.Holds r := by
  cases v with
  | object o =>
    rw [SourceChain.builtin_object] at h
    by_cases hname : s.kind = .name
    · rw [if_pos hname] at h
      obtain ⟨_, hmember⟩ :=
        ValueSource.exists_of_findMember? (SourceOutcome.eq_some_of_ofFound h)
      exact .member hmember hr
    · rw [if_neg hname] at h
      cases h
  | map m =>
    rw [SourceChain.builtin_map] at h
    obtain ⟨e, he, rfl⟩ := ValueSource.exists_of_findKey? (SourceOutcome.eq_some_of_ofFound h)
    exact .value he hr
  | record r' =>
    rw [SourceChain.builtin_record] at h
    exact .answer (ValueSource.member_of_askRecord h) hr
  | list items =>
    rw [SourceChain.builtin_list] at h
    exact .item (ValueSource.mem_of_findItem h) hr
  | null => cases h
  | bool b => cases h
  | int n => cases h
  | float x => cases h
  | str text => cases h

/-- The value of a selector is among those that compare names if the value it was followed from
is. -/
theorem Value.ComparesNames.resolve {v w : Value} (hv : v.ComparesNames) {s : Selector}
    {case : CaseSensitivity} (h : SourceChain.builtin.resolve s v case = .resolved w) :
    w.ComparesNames := fun r hr ↦ hv r (.of_resolve h hr)

/-! ## Paths -/

/-- Trails that come to the same value after as many selectors. -/
structure Trail.Recased (t t' : Trail) : Prop where
  current : t'.current = t.current
  depth : t'.depth = t.depth

/-- Paths that both fail, at the same place and for reasons that are the same but for the message of
a source, or that both lead to the same value, which compares names. -/
inductive Path.Recased : Except PathFailure Trail → Except PathFailure Trail → Prop
  | failed {f f' : PathFailure} : f'.depth = f.depth → f.kind.Alike f'.kind →
      Recased (.error f) (.error f')
  | reached {t t' : Trail} : t.Recased t' → t.current.ComparesNames → Recased (.ok t) (.ok t')

theorem Trail.Recased.advance {t t' : Trail} (h : t.Recased t') (s s' : Selector) (v : Value) :
    (t.advance s v).Recased (t'.advance s' v) := ⟨rfl, congrArg (· + 1) h.depth⟩

theorem Trail.Recased.fail {t t' : Trail} (h : t.Recased t') {kind kind' : ResolutionErrorKind}
    (hkind : kind.Alike kind') (text text' : String) :
    Path.Recased (.error (t.fail kind text)) (.error (t'.fail kind' text')) :=
  .failed h.depth hkind

namespace Path

theorem recased_follow {ss ss' : List Selector} (hss : List.Forall₂ Selector.Recased ss ss')
    {t t' : Trail} (ht : t.Recased t') (hv : t.current.ComparesNames) :
    Recased (follow .builtin .insensitive t ss) (follow .builtin .insensitive t' ss') := by
  induction hss generalizing t t' with
  | nil => exact .reached ht hv
  | @cons s s' ss ss' hs _ ih =>
    have houtcome := SourceChain.recased_resolve hs hv
    have hkept : ∀ w, SourceChain.builtin.resolve s t.current .insensitive = .resolved w →
        w.ComparesNames := fun _ ↦ hv.resolve
    rw [follow, follow, ht.current]
    generalize SourceChain.builtin.resolve s t.current .insensitive = outcome at houtcome hkept ⊢
    generalize SourceChain.builtin.resolve s' t.current .insensitive = outcome' at houtcome ⊢
    cases houtcome with
    | same outcome =>
      cases outcome with
      | resolved w => exact ih (ht.advance s s' w) (hkept w rfl)
      | notApplicable => exact ht.fail (.refl _) s.text s'.text
      | error kind => exact ht.fail (.refl kind) s.text s'.text
    | error hkind => exact ht.fail hkind s.text s'.text

theorem recased_search {first first' : Selector} (h : first.Recased first') {args : List Value}
    (hargs : ∀ v ∈ args, v.ComparesNames) :
    Recased (search .builtin .insensitive first args)
      (search .builtin .insensitive first' args) := by
  have hstart : Trail.Recased {} {} := ⟨rfl, rfl⟩
  induction args with
  | nil => exact hstart.fail (.refl _) first.text first'.text
  | cons arg args ih =>
    obtain ⟨harg, hargs⟩ := List.forall_mem_cons.mp hargs
    have houtcome := SourceChain.recased_resolve h.asIndex harg
    have hkept : ∀ w, SourceChain.builtin.resolve first.asIndex arg .insensitive = .resolved w →
        w.ComparesNames := fun _ ↦ harg.resolve
    rw [search, search]
    generalize SourceChain.builtin.resolve first.asIndex arg .insensitive = outcome
      at houtcome hkept ⊢
    generalize SourceChain.builtin.resolve first'.asIndex arg .insensitive = outcome'
      at houtcome ⊢
    cases houtcome with
    | same outcome =>
      cases outcome with
      | resolved w => exact .reached (hstart.advance first first' w) (hkept w rfl)
      | notApplicable => exact ih hargs
      | error kind => exact hstart.fail (.refl kind) first.text first'.text
    | error hkind => exact hstart.fail hkind first.text first'.text

theorem recased_root {ss ss' : List Selector} (hss : List.Forall₂ Selector.Recased ss ss')
    {args : List Value} (hargs : ∀ v ∈ args, v.ComparesNames) :
    Recased (root .builtin .insensitive args ss) (root .builtin .insensitive args ss') := by
  cases hss with
  | nil =>
    refine .reached ⟨rfl, rfl⟩ ?_
    cases args with
    | nil => exact fun r hr ↦ absurd hr nofun
    | cons arg args => exact hargs arg List.mem_cons_self
  | @cons first first' ss ss' hfirst _ =>
    rw [root, root, argument?, argument?, hfirst.kind]
    cases hkind : first.kind with
    | positional n =>
      simp only
      cases harg : args[n]? with
      | none => exact recased_search hfirst hargs
      | some v => exact .reached ⟨rfl, rfl⟩ (hargs v (List.mem_of_getElem? harg))
    | name => exact recased_search hfirst hargs
    | index n => exact recased_search hfirst hargs

/-- **Paths do not see letter case.** Where case does not count, paths whose selectors differ in
letter case only lead to the same value, or fail at the same selector. -/
theorem recased_resolve {ss ss' : List Selector} (hss : List.Forall₂ Selector.Recased ss ss')
    {args : List Value} (hargs : ∀ v ∈ args, v.ComparesNames) :
    Recased (resolve .builtin .insensitive args ss) (resolve .builtin .insensitive args ss') := by
  have hroot := recased_root hss hargs
  rw [resolve, resolve]
  generalize root .builtin .insensitive args ss = start at hroot ⊢
  generalize root .builtin .insensitive args ss' = start' at hroot ⊢
  cases hroot with
  | failed hdepth hkind => exact .failed hdepth hkind
  | @reached t t' ht hv =>
    show Recased (follow .builtin .insensitive t (ss.drop t.depth))
      (follow .builtin .insensitive t' (ss'.drop t'.depth))
    rw [ht.depth]
    exact recased_follow (List.forall₂_drop t.depth hss) ht hv

end Path

end TextTemplate
