import TextTemplate.Proofs.LetterCase

/-!
# Exact names where case does not count

A name that is in the data letter for letter is found under either case mode, but not in the same
way. Where case counts, a map is asked for one key after another: for the text of the selector, and
for the integer that it denotes only if there is no such text. Where case does not count, the keys
are gone through in the order of insertion, texts and integers together, and the first one that the
selector matches answers.

Let no two of the names be the same but for case. Then a selector matches one name at most, and a
record or a typed object that has an answer keeps it. A map may still have two keys that the
selector matches, a text and an integer. It keeps its answer unless the one that would not have
answered `Overtakes` the other, that is, stands in front of it; then it gives the value of that key.
-/

namespace TextTemplate

/-! ## Names that case alone does not keep apart -/

/-- Among these names, no two are the same where case does not count. -/
def CaseSensitivity.ToldApart (names : List String) : Prop :=
  ∀ a ∈ names, ∀ b ∈ names, insensitive.same a b = true → a = b

instance (names : List String) : Decidable (CaseSensitivity.ToldApart names) :=
  inferInstanceAs (Decidable (∀ a ∈ names, ∀ b ∈ names, _))

/-- The text that a key is. -/
def Key.asStr? : Key → Option String
  | .str k => some k
  | .int _ => none

/-- The keys of a map that are texts. -/
def OrderedMap.texts (m : OrderedMap Key Value) : List String := m.keys.filterMap Key.asStr?

namespace OrderedMap

theorem mem_texts {m : OrderedMap Key Value} {k : String} : k ∈ m.texts ↔ .str k ∈ m.keys := by
  rw [texts, List.mem_filterMap]
  constructor
  · rintro ⟨key, hkey, hk⟩
    cases key with
    | str k' => rwa [← Option.some.inj hk]
    | int n => cases hk
  · intro hk
    exact ⟨.str k, hk, rfl⟩

variable {κ α : Type} [DecidableEq κ] {m : OrderedMap κ α} {k : κ}

theorem mem_keys_of_get? {v : α} (h : m.get? k = some v) : k ∈ m.keys := by
  by_contra hk
  have hnone : m.get? k = none := findFirst?_eq_none fun k' hk' ↦
    decide_eq_false fun hkey ↦ hk (hkey ▸ hk')
  rw [hnone] at h
  cases h

theorem isSome_get? (h : k ∈ m.keys) : (m.get? k).isSome = true := by
  obtain ⟨e, he, rfl⟩ := List.mem_map.mp h
  rw [get?, findFirst?, Option.isSome_map, List.find?_isSome]
  exact ⟨e, he, decide_eq_true rfl⟩

/-- A key answers for a test if no key that passes it stands in front. -/
theorem findFirst?_eq_get? {test : κ → Bool} (hk : k ∈ m.keys) (htest : test k = true)
    (hfirst : ∀ k' ∈ m.keys, test k' = true → m.keys.idxOf k ≤ m.keys.idxOf k') :
    m.findFirst? test = m.get? k := by
  obtain ⟨es⟩ := m
  induction es with
  | nil => exact absurd hk List.not_mem_nil
  | cons e es ih =>
    have hkeys : keys ⟨e :: es⟩ = e.1 :: keys ⟨es⟩ := rfl
    rw [hkeys] at hk hfirst
    by_cases he : e.1 = k
    · subst he
      rw [findFirst?_cons_of_pos htest, get?_cons_self]
    · have hfront : test e.1 = false := by
        rw [Bool.eq_false_iff]
        intro hpass
        have hle := hfirst e.1 List.mem_cons_self hpass
        rw [List.idxOf_cons_self, List.idxOf_cons_ne _ he] at hle
        exact absurd hle (Nat.not_succ_le_zero _)
      rw [findFirst?_cons_of_neg hfront, get?_cons_of_ne he]
      refine ih ((List.mem_cons.mp hk).resolve_left (Ne.symm he)) fun k' hk' hpass ↦ ?_
      have hne : e.1 ≠ k' := by
        rintro rfl
        rw [hpass] at hfront
        cases hfront
      have hle := hfirst k' (List.mem_cons_of_mem _ hk') hpass
      rw [List.idxOf_cons_ne _ he, List.idxOf_cons_ne _ hne] at hle
      exact Nat.le_of_succ_le_succ hle

end OrderedMap

namespace ValueSource

variable {s : Selector} {m : OrderedMap Key Value} {v : Value}

/-! ## Maps -/

/-- A key that a selector matches besides the one that answers it where case counts, and that stands
in front of that one. -/
inductive Overtakes (m : OrderedMap Key Value) (s : Selector) : Key → Prop
  /-- The integer that the selector denotes, in front of its text. -/
  | integer {n : Int64} : s.index? = some n → .int n ∈ m.keys → .str s.text ∈ m.keys →
      m.keys.idxOf (.int n) < m.keys.idxOf (.str s.text) → Overtakes m s (.int n)
  /-- A text that is the same but for case, in front of an integer that the selector denotes without
  being spelled so. No path of a template has such a selector. -/
  | text {n : Int64} {k : String} : ¬s.IsSpelled → s.index? = some n → .int n ∈ m.keys →
      .str s.text ∉ m.keys → .str k ∈ m.keys → CaseSensitivity.insensitive.same s.text k = true →
      m.keys.idxOf (.str k) < m.keys.idxOf (.int n) → Overtakes m s (.str k)

/-- Where case counts, a map answers by the text of a selector, or by the integer that it denotes if
there is no such text. -/
theorem findKey?_sensitive (h : findKey? m s .sensitive = some v) :
    (.str s.text ∈ m.keys ∧ m.get? (.str s.text) = some v) ∨
      .str s.text ∉ m.keys ∧
        ∃ n, s.index? = some n ∧ .int n ∈ m.keys ∧ m.get? (.int n) = some v := by
  rw [findKey?] at h
  by_cases htext : .str s.text ∈ m.keys
  · left
    obtain ⟨w, hw⟩ := Option.isSome_iff_exists.mp (OrderedMap.isSome_get? htext)
    rw [hw, Option.some_or] at h
    exact ⟨htext, hw.trans h⟩
  · right
    rcases Option.or_eq_some_iff.mp h with hw | ⟨_, hindex⟩
    · exact absurd (OrderedMap.mem_keys_of_get? hw) htext
    · obtain ⟨n, hn, hw⟩ := Option.bind_eq_some_iff.mp hindex
      exact ⟨htext, n, hn, OrderedMap.mem_keys_of_get? hw, hw⟩

/-- A text answers without regard to case if the integer that the selector denotes is not in front
of it. -/
theorem findKey?_of_text (h : CaseSensitivity.ToldApart m.texts) {k : String} (hk : .str k ∈ m.keys)
    (hsame : CaseSensitivity.insensitive.same s.text k = true)
    (hint : ∀ n, s.index? = some n → .int n ∈ m.keys →
      m.keys.idxOf (.str k) ≤ m.keys.idxOf (.int n)) :
    findKey? m s .insensitive = m.get? (.str k) := by
  refine OrderedMap.findFirst?_eq_get? hk hsame fun rival hrival hmatched ↦ ?_
  cases rival with
  | int n => exact hint n (eq_of_beq hmatched) hrival
  | str k' =>
    have hcase := CaseSensitivity.insensitive.equivalence_same
    have hkk' := hcase.trans (hcase.symm hsame) hmatched
    obtain rfl := h k (OrderedMap.mem_texts.mpr hk) k' (OrderedMap.mem_texts.mpr hrival) hkk'
    exact Nat.le_refl _

/-- An integer answers without regard to case if no text that the selector matches is in front of
it. -/
theorem findKey?_of_integer {n : Int64} (hn : s.index? = some n) (hmem : .int n ∈ m.keys)
    (htext : ∀ k, .str k ∈ m.keys → CaseSensitivity.insensitive.same s.text k = true →
      m.keys.idxOf (.int n) ≤ m.keys.idxOf (.str k)) :
    findKey? m s .insensitive = m.get? (.int n) := by
  refine OrderedMap.findFirst?_eq_get? hmem (beq_iff_eq.mpr hn) fun rival hrival hmatched ↦ ?_
  cases rival with
  | int n' =>
    obtain rfl : n = n' := Option.some.inj (hn.symm.trans (eq_of_beq hmatched))
    exact Nat.le_refl _
  | str k => exact htext k hrival hmatched

/-- A map whose texts are told apart keeps its answer if no key overtakes the one it answers by. -/
theorem findKey?_insensitive (h : CaseSensitivity.ToldApart m.texts)
    (hv : findKey? m s .sensitive = some v) (hnone : ∀ rival, ¬Overtakes m s rival) :
    findKey? m s .insensitive = some v := by
  rcases findKey?_sensitive hv with ⟨htext, hget⟩ | ⟨hno, n, hn, hmem, hget⟩
  · have hself := CaseSensitivity.insensitive.equivalence_same.refl s.text
    rw [← hget]
    refine findKey?_of_text h htext hself fun n hn hmem ↦ Nat.le_of_not_lt fun hlt ↦ ?_
    exact hnone _ (.integer hn hmem htext hlt)
  · rw [← hget]
    refine findKey?_of_integer hn hmem fun k hk hsame ↦ Nat.le_of_not_lt fun hlt ↦ ?_
    by_cases hs : s.IsSpelled
    · -- A selector that is spelled as an integer is the same as no other text.
      have hname : s.kind ≠ .name := by
        intro hname
        rw [Selector.index?, hname] at hn
        cases hn
      rw [CaseSensitivity.eq_of_same .insensitive (hs hname) hsame] at hk
      exact hno hk
    · exact hnone _ (.text hs hn hmem hno hk hsame hlt)

/-- The key that overtakes answers. -/
theorem Overtakes.findKey? {rival : Key} (h : Overtakes m s rival)
    (hapart : CaseSensitivity.ToldApart m.texts) :
    ValueSource.findKey? m s .insensitive = m.get? rival := by
  have hcase := CaseSensitivity.insensitive.equivalence_same
  cases h with
  | integer hn hmem htext hlt =>
    refine findKey?_of_integer hn hmem fun k hk hsame ↦ ?_
    rw [← hapart _ (OrderedMap.mem_texts.mpr htext) k (OrderedMap.mem_texts.mpr hk) hsame]
    exact Nat.le_of_lt hlt
  | text _ hn _ _ hk hsame hlt =>
    refine findKey?_of_text hapart hk hsame fun n' hn' _ ↦ ?_
    rw [← Option.some.inj (hn.symm.trans hn')]
    exact Nat.le_of_lt hlt

/-! ## Records and typed objects -/

/-- A record whose names are told apart keeps its answer. -/
theorem askRecord_insensitive {r : Record} (h : CaseSensitivity.ToldApart r.keys)
    (hv : askRecord ⟨r.member, "Record"⟩ s .sensitive = .resolved v) :
    askRecord ⟨r.member, "Record"⟩ s .insensitive = .resolved v := by
  have hget : r.get? s.text = some v := by
    have hmember : (r.get? s.text).elim (Except.error (MemberError.missing s.text)) Except.ok =
        Except.ok v := member_of_askRecord hv
    cases hfound : r.get? s.text with
    | none =>
      rw [hfound] at hmember
      cases hmember
    | some w =>
      rw [hfound] at hmember
      rw [Except.ok.inj hmember]
  have hmem := OrderedMap.mem_keys_of_get? hget
  have hself := CaseSensitivity.insensitive.equivalence_same.refl s.text
  have hfirst : r.findFirst? (CaseSensitivity.insensitive.same s.text) = some v := by
    rw [← hget]
    refine OrderedMap.findFirst?_eq_get? hmem hself fun k hk hsame ↦ ?_
    obtain rfl := h s.text hmem k hk hsame
    exact Nat.le_refl _
  have hmember : DynamicRecord.member ⟨r.member, "Record"⟩ s.text .insensitive = .ok v := by
    show (r.findFirst? (CaseSensitivity.insensitive.same s.text)).elim _ _ = _
    rw [hfirst, Option.elim_some]
  rw [askRecord, hmember]

/-- A typed object that declares the names that it accepts, and whose names are told apart, keeps
its answer. -/
theorem findMember?_insensitive {o : TypedObject}
    (hnames : ∀ name, name ∈ o.memberNames ↔ (o.member name).isSome = true)
    (h : CaseSensitivity.ToldApart o.memberNames) (hv : findMember? o s .sensitive = some v) :
    findMember? o s .insensitive = some v := by
  have hmem : s.text ∈ o.memberNames := (hnames s.text).mpr (Option.isSome_of_eq_some hv)
  have hself := CaseSensitivity.insensitive.equivalence_same.refl s.text
  have hfirst : o.memberNames.find? (CaseSensitivity.insensitive.same s.text) = some s.text := by
    obtain ⟨name, hname⟩ := Option.isSome_iff_exists.mp
      (List.find?_isSome.mpr ⟨s.text, hmem, hself⟩)
    have hsame := List.find?_some hname
    rw [hname, h s.text hmem name (List.mem_of_find?_eq_some hname) hsame]
  rw [findMember?, hfirst]
  exact hv

/-! ## Switching to the mode in which case does not count -/

/-- **Exact answers are kept, unless a key overtakes.** Let no two names of the data be the same but
for case. What a selector leads to where case counts, it also leads to where case does not count, in
every record, and in every typed object that declares exactly the names it accepts. In a map it does
so if no key overtakes the one that answered; a key that does gives its own value instead. -/
theorem resolve_insensitive_of_sensitive (s : Selector) (v : Value) :
    (∀ m : OrderedMap Key Value, CaseSensitivity.ToldApart m.texts →
      mapping.resolve s (.map m) .sensitive = .resolved v →
        ((∀ rival, ¬Overtakes m s rival) →
          mapping.resolve s (.map m) .insensitive = .resolved v) ∧
        ∀ rival, Overtakes m s rival →
          mapping.resolve s (.map m) .insensitive = .ofFound (m.get? rival)) ∧
    (∀ r : Record, CaseSensitivity.ToldApart r.keys →
      dynamicRecord.resolve s r.toValue .sensitive = .resolved v →
        dynamicRecord.resolve s r.toValue .insensitive = .resolved v) ∧
    ∀ o : TypedObject, (∀ name, name ∈ o.memberNames ↔ (o.member name).isSome = true) →
      CaseSensitivity.ToldApart o.memberNames →
      typedObject.resolve s (.object o) .sensitive = .resolved v →
        typedObject.resolve s (.object o) .insensitive = .resolved v := by
  refine ⟨fun m h hv ↦ ⟨fun hnone ↦ ?_, fun rival hrival ↦ ?_⟩, fun r h hv ↦ ?_,
    fun o hnames h hv ↦ ?_⟩
  · have hfound := findKey?_insensitive h (SourceOutcome.eq_some_of_ofFound hv) hnone
    exact congrArg SourceOutcome.ofFound hfound
  · exact congrArg SourceOutcome.ofFound (hrival.findKey? h)
  · exact askRecord_insensitive h hv
  · rw [resolve] at hv ⊢
    by_cases hclaims : typedObject.claims s (.object o) = true
    · rw [if_pos hclaims] at hv ⊢
      have hfound := findMember?_insensitive hnames h (SourceOutcome.eq_some_of_ofFound hv)
      exact congrArg SourceOutcome.ofFound hfound
    · rw [if_neg hclaims] at hv
      cases hv

/-- A map in which the integer 5 stands in front of the text `5`. -/
def fivesSample : OrderedMap Key Value :=
  ⟨[(.str "A", .null), (.int 5, .str "a"), (.str "5", .str "b")]⟩

theorem resolve_insensitive_of_sensitive_fivesSample :
    let five := Selector.ofText "5" ⟨0, 1⟩ false
    let name := Selector.ofText "A" ⟨0, 1⟩ true
    mapping.resolve five (.map fivesSample) .insensitive = .resolved (.str "a") ∧
      mapping.resolve name (.map fivesSample) .insensitive = .resolved .null ∧
      dynamicRecord.resolve name (Record.toValue ⟨[("B", .bool true), ("A", .null)]⟩) .insensitive =
        .resolved .null ∧
      typedObject.resolve name (.object (.ofMembers "T" [("A", .null)] none none)) .insensitive =
        .resolved .null := by
  intro five name
  have hfives : CaseSensitivity.ToldApart fivesSample.texts := by decide +kernel
  have hrival : Overtakes fivesSample five (.int 5) :=
    .integer rfl (by decide) (by decide) (by decide)
  have hnone : ∀ rival, ¬Overtakes fivesSample name rival := by
    rintro _ (⟨hn, _⟩ | ⟨_, hn, _⟩)
    · cases hn
    · cases hn
  have hdeclared : ∀ n, n ∈ ["A"] ↔
      ((TypedObject.ofMembers "T" [("A", .null)] none none).member n).isSome = true := by
    intro n
    by_cases hn : n = "A"
    · subst hn
      exact ⟨fun _ ↦ rfl, fun _ ↦ List.mem_singleton_self _⟩
    · have hother : ("A" == n) = false := beq_eq_false_iff_ne.mpr (Ne.symm hn)
      have hmember : (TypedObject.ofMembers "T" [("A", .null)] none none).member n = none := by
        simp only [TypedObject.ofMembers, TextTemplate.findMember?, List.find?_cons, hother]
        rfl
      rw [hmember, List.mem_singleton]
      exact iff_of_false hn Bool.false_ne_true
  refine ⟨?_, ?_, ?_, ?_⟩
  · exact ((resolve_insensitive_of_sensitive five (.str "b")).1 fivesSample hfives rfl).2 _ hrival
  · exact ((resolve_insensitive_of_sensitive name .null).1 fivesSample hfives rfl).1 hnone
  · exact (resolve_insensitive_of_sensitive name .null).2.1 _ (by decide +kernel) rfl
  · exact (resolve_insensitive_of_sensitive name .null).2.2 _ hdeclared (by decide +kernel) rfl

/-- The text `5` answers where case counts, and the integer in front of it where case does not. -/
theorem resolve_fivesSample :
    let five := Selector.ofText "5" ⟨0, 1⟩ false
    CaseSensitivity.ToldApart fivesSample.texts ∧
      mapping.resolve five (.map fivesSample) .sensitive = .resolved (.str "b") ∧
      mapping.resolve five (.map fivesSample) .insensitive = .resolved (.str "a") ∧
      mapping.resolve five (.map fivesSample) .insensitive ≠ .resolved (.str "b") := by
  have hinsensitive : mapping.resolve (Selector.ofText "5" ⟨0, 1⟩ false) (.map fivesSample)
      .insensitive = .resolved (.str "a") := rfl
  refine ⟨by decide +kernel, rfl, hinsensitive, ?_⟩
  rw [hinsensitive]
  intro h
  injection h with htext
  injection htext with htext
  exact absurd htext (by decide)

end ValueSource

end TextTemplate
