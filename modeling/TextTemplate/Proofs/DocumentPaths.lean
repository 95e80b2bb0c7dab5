import Mathlib.Data.String.Basic
import TextTemplate.Proofs.Insertion
import TextTemplate.Proofs.ListIndexes
import TextTemplate.Proofs.Shapes
import TextTemplate.Value.Json

/-!
# Paths through documents

A path can be followed in a JSON document itself: into an object by the name of a member, and into
an array by an index. `Leads` and `Refuses` say where it leads and why it leads nowhere, without a
word about values. `follow_ofJson` compares this with the path through the value that the document
becomes, which leads to the value of the same part of the document, or fails at the same text.

A text of digits has no meaning of its own here. In an object it is a name like any other, since no
key of the value is an integer, and only in an array it is an index.
-/

namespace TextTemplate

/-! ## Members by name -/

section

variable {α : Type}

/-- Members in the order of their names, no two of which are the same. -/
abbrev IsSorted (ms : List (String × α)) : Prop := ms.Pairwise fun m m' ↦ m.1 < m'.1

/-- A member takes the place of the first one with its name, or goes in front of it, or goes on. -/
theorem insertSorted_cons_cases (name : String) (v : α) (m : String × α) (ms : List (String × α)) :
    (name = m.1 ∧ insertSorted name v (m :: ms) = (name, v) :: ms) ∨
    (name < m.1 ∧ insertSorted name v (m :: ms) = (name, v) :: m :: ms) ∨
    (m.1 < name ∧ insertSorted name v (m :: ms) = m :: insertSorted name v ms) := by
  rw [insertSorted]
  by_cases heq : name = m.1
  · exact Or.inl ⟨heq, if_pos heq⟩
  · rw [if_neg heq]
    by_cases hlt : name < m.1
    · exact Or.inr (Or.inl ⟨hlt, if_pos hlt⟩)
    · exact Or.inr (Or.inr ⟨lt_of_le_of_ne (not_lt.mp hlt) (Ne.symm heq), if_neg hlt⟩)

theorem mem_insertSorted {name : String} {v : α} {ms : List (String × α)} {m : String × α}
    (h : m ∈ insertSorted name v ms) : m = (name, v) ∨ m ∈ ms := by
  induction ms with
  | nil => exact Or.inl (List.mem_singleton.mp h)
  | cons m' ms ih =>
    rcases insertSorted_cons_cases name v m' ms with ⟨-, hms⟩ | ⟨-, hms⟩ | ⟨-, hms⟩
    · rw [hms] at h
      exact (List.mem_cons.mp h).imp_right (List.mem_cons_of_mem m')
    · rw [hms] at h
      exact List.mem_cons.mp h
    · rw [hms] at h
      rcases List.mem_cons.mp h with rfl | h
      · exact Or.inr List.mem_cons_self
      · exact (ih h).imp_right (List.mem_cons_of_mem m')

theorem IsSorted.insertSorted {ms : List (String × α)} (h : IsSorted ms) (name : String) (v : α) :
    IsSorted (insertSorted name v ms) := by
  induction ms with
  | nil => exact List.pairwise_singleton _ _
  | cons m ms ih =>
    obtain ⟨hfirst, htail⟩ := List.pairwise_cons.mp h
    rcases insertSorted_cons_cases name v m ms with ⟨heq, hms⟩ | ⟨hlt, hms⟩ | ⟨hlt, hms⟩
    · rw [hms]
      exact List.pairwise_cons.mpr ⟨fun m' hm' ↦ heq ▸ hfirst m' hm', htail⟩
    · rw [hms]
      refine List.pairwise_cons.mpr ⟨fun m' hm' ↦ ?_, h⟩
      rcases List.mem_cons.mp hm' with rfl | hm'
      · exact hlt
      · exact hlt.trans (hfirst m' hm')
    · rw [hms]
      refine List.pairwise_cons.mpr ⟨fun m' hm' ↦ ?_, ih htail⟩
      rcases mem_insertSorted hm' with rfl | hm'
      · exact hlt
      · exact hfirst m' hm'

theorem sortMembers_concat (ms : List (String × α)) (m : String × α) :
    sortMembers (ms ++ [m]) = insertSorted m.1 m.2 (sortMembers ms) := by
  rw [sortMembers, List.foldl_concat, sortMembers]

theorem isSorted_sortMembers (ms : List (String × α)) : IsSorted (sortMembers ms) := by
  induction ms using List.reverseRecOn with
  | nil => exact List.Pairwise.nil
  | append_singleton ms m ih =>
    rw [sortMembers_concat]
    exact ih.insertSorted m.1 m.2

theorem IsSorted.nodup {ms : List (String × α)} (h : IsSorted ms) : (ms.map Prod.fst).Nodup :=
  List.pairwise_map.mpr (h.imp fun hlt ↦ hlt.ne)

namespace OrderedMap

theorem get?_insertSorted_self (name : String) (v : α) (ms : List (String × α)) :
    get? ⟨insertSorted name v ms⟩ name = some v := by
  induction ms with
  | nil => exact get?_cons_self (name, v) []
  | cons m ms ih =>
    rcases insertSorted_cons_cases name v m ms with ⟨-, hms⟩ | ⟨-, hms⟩ | ⟨hlt, hms⟩
    · rw [hms]
      exact get?_cons_self (name, v) ms
    · rw [hms]
      exact get?_cons_self (name, v) (m :: ms)
    · rwa [hms, get?_cons_of_ne hlt.ne]

theorem get?_insertSorted_of_ne {name k : String} (h : name ≠ k) (v : α)
    (ms : List (String × α)) : get? ⟨insertSorted name v ms⟩ k = get? ⟨ms⟩ k := by
  induction ms with
  | nil => exact get?_cons_of_ne h []
  | cons m ms ih =>
    rcases insertSorted_cons_cases name v m ms with ⟨heq, hms⟩ | ⟨-, hms⟩ | ⟨-, hms⟩
    · have hm : m.1 ≠ k := heq ▸ h
      rw [hms, get?_cons_of_ne hm]
      exact get?_cons_of_ne h ms
    · rw [hms]
      exact get?_cons_of_ne h (m :: ms)
    · rw [hms]
      by_cases hm : m.1 = k
      · rw [← hm, get?_cons_self, get?_cons_self]
      · rw [get?_cons_of_ne hm, get?_cons_of_ne hm, ih]

/-- The order that members are put into does not change what a name leads to. -/
theorem get?_sortMembers (ms : List (String × α)) (k : String) :
    get? ⟨sortMembers ms⟩ k = get? ⟨ms.reverse⟩ k := by
  induction ms using List.reverseRecOn with
  | nil => rfl
  | append_singleton ms m ih =>
    rw [sortMembers_concat, List.reverse_append, List.reverse_singleton, List.singleton_append]
    by_cases hm : m.1 = k
    · rw [← hm, get?_insertSorted_self, get?_cons_self]
    · rw [get?_insertSorted_of_ne hm, get?_cons_of_ne hm, ih]

end OrderedMap

end

/-! ## Look-ups in the value of a document -/

/-- The keys of the value of an object are the names of its members, once each. -/
theorem Value.ofJson_object (members : List (String × JsonDocument)) :
    Value.ofJson (.object members) =
      .map ⟨(sortMembers (members.map fun m ↦ (m.1, Value.ofJson m.2))).map
        fun m ↦ (.str m.1, m.2)⟩ := by
  have hinj : ∀ k k' : String, Key.str k = Key.str k' → k = k' := fun _ _ ↦ Key.str.inj
  rw [Value.ofJson, Value.ofJsonMembers_eq_map, OrderedMap.ofList_map hinj,
    OrderedMap.ofList_of_nodup (isSorted_sortMembers _).nodup]

/-- What a selector leads to in the value of an object: the value of the last member that has its
text for a name, whatever integer the text denotes. -/
theorem ValueSource.findKey?_sortMembers (ms : List (String × Value)) (s : Selector) :
    findKey? ⟨(sortMembers ms).map fun m ↦ (.str m.1, m.2)⟩ s .sensitive =
      OrderedMap.get? ⟨ms.reverse⟩ s.text := by
  have htext : OrderedMap.get? ⟨(sortMembers ms).map fun m ↦ (Key.str m.1, m.2)⟩ (.str s.text) =
      OrderedMap.get? ⟨ms.reverse⟩ s.text := by
    have htest : (fun k ↦ decide (k = Key.str s.text)) ∘ Key.str = fun k ↦ decide (k = s.text) :=
      funext fun k ↦ decide_eq_decide.mpr (Key.str.injEq k s.text).to_iff
    rw [← OrderedMap.get?_sortMembers, OrderedMap.get?,
      OrderedMap.findFirst?_map Key.str ⟨sortMembers ms⟩, htest, OrderedMap.get?]
  have hinteger : ∀ n : Int64,
      OrderedMap.get? ⟨(sortMembers ms).map fun m ↦ (Key.str m.1, m.2)⟩ (.int n) = none := by
    intro n
    refine OrderedMap.findFirst?_eq_none fun k hk ↦ ?_
    obtain ⟨e, he, rfl⟩ := List.mem_map.mp hk
    obtain ⟨m, -, rfl⟩ := List.mem_map.mp he
    refine decide_eq_false fun heq ↦ ?_
    cases heq
  rw [findKey?, htext, Option.bind_congr fun n _ ↦ hinteger n, Option.bind_fun_none, Option.or_none]

/-! ## Paths through a document -/

namespace JsonDocument

/-- A text writes a 64-bit integer: digits, with a minus sign before them or without. -/
def Writes (text : String) (k : Int64) : Prop := Numeral.integer? text.toList = some k.toInt

instance (text : String) (k : Int64) : Decidable (Writes text k) :=
  inferInstanceAs (Decidable (_ = _))

theorem writes_iff {text : String} {k : Int64} :
    Writes text k ↔ Selector.integer? text = some k := by
  rw [Writes, Selector.integer?, Option.bind_eq_some_iff]
  constructor
  · intro h
    exact ⟨k.toInt, h, Numeral.int64?_eq_some_iff.mpr rfl⟩
  · rintro ⟨n, h, hn⟩
    rw [h, Numeral.int64?_eq_some_iff.mp hn]

/-- What a text leads to in one step: in an object the last member with that name, in an array the
item with the index that the text writes. -/
inductive Enters : JsonDocument → String → JsonDocument → Prop
  | member {before after : List (String × JsonDocument)} {name : String} {j : JsonDocument} :
      (∀ m ∈ after, m.1 ≠ name) → Enters (.object (before ++ (name, j) :: after)) name j
  | item {items : List JsonDocument} {text : String} {k : Int64} {i : Nat} (h : i < items.length) :
      Writes text k → k.toInt = i → Enters (.array items) text items[i]

/-- Why a text leads nowhere in one step. -/
inductive Refuses : JsonDocument → String → ResolutionErrorKind → Prop
  | missing {members : List (String × JsonDocument)} {text : String} :
      (∀ m ∈ members, m.1 ≠ text) → Refuses (.object members) text .notFound
  | negative {items : List JsonDocument} {text : String} {k : Int64} :
      Writes text k → k.toInt < 0 → Refuses (.array items) text (.negativeIndex k)
  | outOfRange {items : List JsonDocument} {text : String} {k : Int64} :
      Writes text k → (items.length : Int) ≤ k.toInt →
        Refuses (.array items) text (.indexOutOfRange k items.length)
  | noIndex {items : List JsonDocument} {text : String} :
      (∀ k, ¬ Writes text k) → Refuses (.array items) text .notFound
  | leaf {j : JsonDocument} {text : String} :
      (∀ members, j ≠ .object members) → (∀ items, j ≠ .array items) → Refuses j text .notFound

/-- What texts lead to, one after another. -/
inductive Leads : JsonDocument → List String → JsonDocument → Prop
  | here {j : JsonDocument} : Leads j [] j
  | step {j j' j'' : JsonDocument} {text : String} {texts : List String} :
      Enters j text j' → Leads j' texts j'' → Leads j (text :: texts) j''

/-- A text leads somewhere or is refused. -/
theorem enters_or_refuses (j : JsonDocument) (text : String) :
    (∃ j', j.Enters text j') ∨ ∃ kind, j.Refuses text kind := by
  cases j with
  | object members =>
    cases hget : OrderedMap.get? ⟨members.reverse⟩ text with
    | some j' =>
      obtain ⟨before, after, rfl, hafter⟩ := OrderedMap.get?_reverse_eq_some_iff.mp hget
      exact Or.inl ⟨j', .member hafter⟩
    | none =>
      exact Or.inr ⟨_, .missing (OrderedMap.get?_reverse_eq_none_iff.mp hget)⟩
  | array items =>
    by_cases hwrites : ∃ k, Writes text k
    · obtain ⟨k, hk⟩ := hwrites
      by_cases hneg : k.toInt < 0
      · exact Or.inr ⟨_, .negative hk hneg⟩
      · by_cases hlt : k.toInt.toNat < items.length
        · exact Or.inl ⟨_, .item hlt hk (Int.toNat_of_nonneg (Int.not_lt.mp hneg)).symm⟩
        · exact Or.inr ⟨_, .outOfRange hk (by omega)⟩
    · exact Or.inr ⟨_, .noIndex (not_exists.mp hwrites)⟩
  | null => exact Or.inr ⟨_, .leaf nofun nofun⟩
  | bool b => exact Or.inr ⟨_, .leaf nofun nofun⟩
  | integer n => exact Or.inr ⟨_, .leaf nofun nofun⟩
  | float x => exact Or.inr ⟨_, .leaf nofun nofun⟩
  | string s => exact Or.inr ⟨_, .leaf nofun nofun⟩

end JsonDocument

/-- A segment at the front of a path or behind it, as its text makes it. -/
def Selector.IsSegment (s : Selector) : Prop := ∃ leading, s = ofText s.text s.span leading

theorem Selector.IsSegment.index?_eq {s : Selector} (h : s.IsSegment) :
    s.index? = integer? s.text := by
  obtain ⟨leading, hs⟩ := h
  rw [hs, index?_ofText]
  rfl

namespace JsonDocument

variable {j j' : JsonDocument} {s : Selector} {case : CaseSensitivity}

theorem resolve_object (members : List (String × JsonDocument)) (s : Selector) :
    SourceChain.builtin.resolve s (.ofJson (.object members)) .sensitive =
      .ofFound ((OrderedMap.get? ⟨members.reverse⟩ s.text).map .ofJson) := by
  rw [Value.ofJson_object, SourceChain.builtin_map, ValueSource.findKey?_sortMembers,
    ← List.map_reverse, OrderedMap.get?_mapValues]

theorem resolve_array (items : List JsonDocument) (s : Selector) (case : CaseSensitivity) :
    SourceChain.builtin.resolve s (.ofJson (.array items)) case =
      ValueSource.findItem (items.map .ofJson) s := by
  rw [Value.ofJson_array, SourceChain.builtin_list]

theorem resolve_leaf (hobject : ∀ members, j ≠ .object members) (harray : ∀ items, j ≠ .array items)
    (s : Selector) (case : CaseSensitivity) :
    SourceChain.builtin.resolve s (.ofJson j) case = .notApplicable := by
  cases j with
  | object members => exact absurd rfl (hobject members)
  | array items => exact absurd rfl (harray items)
  | integer n =>
    rw [Value.ofJson, Value.ofInt]
    split <;> rfl
  | null => rfl
  | bool b => rfl
  | float x => rfl
  | string text => rfl

theorem answersIndex_of_writes (items : List JsonDocument) {k : Int64} (h : Writes s.text k)
    (hs : s.IsSegment) (case : CaseSensitivity) :
    (SourceChain.builtin.resolve s (.ofJson (.array items)) case).AnswersIndex
      (items.map .ofJson) k.toInt := by
  rw [resolve_array]
  exact ValueSource.answersIndex_findItem (hs.index?_eq.trans (writes_iff.mp h))

/-- Where a text leads in a document, it leads in the value. -/
theorem Enters.resolve (h : j.Enters s.text j') (hs : s.IsSegment) :
    SourceChain.builtin.resolve s (.ofJson j) .sensitive = .resolved (.ofJson j') := by
  cases h with
  | @member before after _ _ hafter =>
    have hget : OrderedMap.get? ⟨(before ++ (s.text, j') :: after).reverse⟩ s.text = some j' :=
      OrderedMap.get?_reverse_eq_some_iff.mpr ⟨before, after, rfl, hafter⟩
    rw [resolve_object, hget]
    rfl
  | @item items _ k i hlt hwrites hk =>
    have hanswer := answersIndex_of_writes items hwrites hs .sensitive
    have hi : i < (items.map Value.ofJson).length := by rwa [List.length_map]
    rw [hk] at hanswer
    rw [hanswer.eq_resolved hi, List.getElem_map]

/-- Where a text is refused in a document, it is refused in the value. -/
theorem Refuses.resolve {kind : ResolutionErrorKind} (h : j.Refuses s.text kind)
    (hs : s.IsSegment) :
    SourceChain.builtin.resolve s (.ofJson j) .sensitive = .error kind ∨
      kind = .notFound ∧
        SourceChain.builtin.resolve s (.ofJson j) .sensitive = .notApplicable := by
  cases h with
  | missing hmissing =>
    refine Or.inr ⟨rfl, ?_⟩
    rw [resolve_object, OrderedMap.get?_reverse_eq_none_iff.mpr hmissing]
    rfl
  | negative hwrites hneg =>
    exact Or.inl ((answersIndex_of_writes _ hwrites hs .sensitive).eq_negativeIndex hneg)
  | @outOfRange items _ k hwrites hle =>
    have hanswer := answersIndex_of_writes items hwrites hs .sensitive
    have hlength : (items.map Value.ofJson).length = items.length := List.length_map _
    rw [← hlength] at hle ⊢
    exact Or.inl (hanswer.eq_indexOutOfRange hle)
  | noIndex hwrites =>
    refine Or.inr ⟨rfl, ?_⟩
    have hindex : s.index? = none := by
      rw [hs.index?_eq]
      exact Option.eq_none_iff_forall_ne_some.mpr fun k hk ↦ hwrites k (writes_iff.mpr hk)
    rw [resolve_array, ValueSource.findItem_eq_notApplicable hindex]
  | leaf hobject harray => exact Or.inr ⟨rfl, resolve_leaf hobject harray s .sensitive⟩

theorem Refuses.not_resolved {kind : ResolutionErrorKind} (h : j.Refuses s.text kind)
    (hs : s.IsSegment) (v : Value) :
    SourceChain.builtin.resolve s (.ofJson j) .sensitive ≠ .resolved v := by
  rcases h.resolve hs with hanswer | ⟨-, hanswer⟩
  · rw [hanswer]
    exact nofun
  · rw [hanswer]
    exact nofun

/-- No text is refused where it leads on. -/
theorem Refuses.not_enters {text : String} {kind : ResolutionErrorKind} (h : j.Refuses text kind) :
    ¬ ∃ j', j.Enters text j' := by
  rintro ⟨j', henters⟩
  -- The selector that the text makes has one answer from the value of the document.
  have hsegment : (Selector.ofText text default false).IsSegment := ⟨false, rfl⟩
  exact Refuses.not_resolved h hsegment _ (Enters.resolve henters hsegment)

/-- The value of a document is entered where the document is. -/
theorem resolve_eq_resolved_iff (hs : s.IsSegment) {v : Value} :
    SourceChain.builtin.resolve s (.ofJson j) .sensitive = .resolved v ↔
      ∃ j', j.Enters s.text j' ∧ v = .ofJson j' := by
  constructor
  · intro h
    rcases enters_or_refuses j s.text with ⟨j', henters⟩ | ⟨kind, hrefuses⟩
    · exact ⟨j', henters, SourceOutcome.resolved.inj (h.symm.trans (henters.resolve hs))⟩
    · exact absurd h (hrefuses.not_resolved hs v)
  · rintro ⟨j', henters, rfl⟩
    exact henters.resolve hs

/-- Texts lead somewhere, or one of them is refused where those before it lead. -/
theorem leads_or_stops (j : JsonDocument) (texts : List String) :
    (∃ j', j.Leads texts j') ∨ ∃ front text back j' kind, texts = front ++ text :: back ∧
      j.Leads front j' ∧ j'.Refuses text kind := by
  induction texts generalizing j with
  | nil => exact Or.inl ⟨j, .here⟩
  | cons text texts ih =>
    rcases enters_or_refuses j text with ⟨j', henters⟩ | ⟨kind, hrefuses⟩
    · rcases ih j' with ⟨last, hleads⟩ | ⟨front, text', back, last, kind, rfl, hleads, hrefuses⟩
      · exact Or.inl ⟨last, .step henters hleads⟩
      · exact Or.inr ⟨text :: front, text', back, last, kind, rfl, .step henters hleads, hrefuses⟩
    · exact Or.inr ⟨[], text, texts, j, kind, rfl, .here, hrefuses⟩

theorem resolve_congr {s' : Selector} (htext : s'.text = s.text) (hindex : s'.index? = s.index?) :
    SourceChain.builtin.resolve s' (.ofJson j) .sensitive =
      SourceChain.builtin.resolve s (.ofJson j) .sensitive := by
  by_cases hobject : ∃ members, j = .object members
  · obtain ⟨members, rfl⟩ := hobject
    rw [resolve_object, resolve_object, htext]
  · by_cases harray : ∃ items, j = .array items
    · obtain ⟨items, rfl⟩ := harray
      rw [resolve_array, resolve_array, ValueSource.findItem, ValueSource.findItem, hindex]
    · rw [not_exists] at hobject harray
      rw [resolve_leaf hobject harray, resolve_leaf hobject harray]

end JsonDocument

namespace Path

variable {j j' : JsonDocument} {t : Trail} {ss : List Selector}

theorem follow_of_leads (hss : ∀ s ∈ ss, s.IsSegment) (ht : t.current = .ofJson j)
    (h : j.Leads (ss.map Selector.text) j') :
    follow .builtin .sensitive t ss = .ok
      ⟨.ofJson j', t.depth + ss.length, t.resolved ++ ss.map Selector.text⟩ := by
  induction ss generalizing t j with
  | nil =>
    cases h
    rw [follow, ← ht, List.map_nil, List.append_nil]
    rfl
  | cons s ss ih =>
    rw [List.forall_mem_cons] at hss
    cases h with
    | @step _ next _ _ _ henters hleads =>
      have hnext : (t.advance s (.ofJson next)).current = .ofJson next := rfl
      rw [follow, ht, henters.resolve hss.1]
      refine (ih hss.2 hnext hleads).trans (congrArg Except.ok ?_)
      rw [Trail.advance, List.length_cons, List.map_cons, List.append_assoc,
        List.singleton_append, Nat.add_assoc, Nat.add_comm 1]

theorem follow_of_refuses (hss : ∀ s ∈ ss, s.IsSegment) (ht : t.current = .ofJson j)
    {front back : List String} {text : String} {kind : ResolutionErrorKind}
    (htexts : ss.map Selector.text = front ++ text :: back) (hleads : j.Leads front j')
    (hrefuses : j'.Refuses text kind) :
    follow .builtin .sensitive t ss =
      .error ⟨kind, text, t.depth + front.length, t.resolved ++ front⟩ := by
  obtain ⟨ss₁, ss₂, rfl, rfl, hback⟩ := List.map_eq_append_iff.mp htexts
  obtain ⟨s, ss₂, rfl, rfl, rfl⟩ := List.map_eq_cons_iff.mp hback
  rw [List.forall_mem_append, List.forall_mem_cons] at hss
  rw [follow_append, follow_of_leads hss.1 ht hleads, List.length_map]
  change follow _ _ _ (s :: ss₂) = _
  rw [follow]
  rcases hrefuses.resolve hss.2.1 with hanswer | ⟨rfl, hanswer⟩
  · rw [hanswer]
    rfl
  · rw [hanswer]
    rfl

/-- A path that does not begin with the index of an argument starts at the sole argument. -/
theorem resolve_sole_ofJson {first : Selector} {rest : List Selector} (hfirst : first.IsSegment)
    (hargument : argument? [.ofJson j] first = none) :
    resolve .builtin .sensitive [.ofJson j] (first :: rest) =
      follow .builtin .sensitive { current := .ofJson j } (first :: rest) := by
  have htext : first.asIndex.text = first.text := by
    obtain ⟨text, kind, span⟩ := first
    cases kind <;> rfl
  have hindex : first.asIndex.index? = first.index? := by
    obtain ⟨leading, hleading⟩ := hfirst
    rw [hleading, Selector.index?_asIndex_ofText, Selector.index?_ofText]
  rw [resolve, root_of_not_argument hargument, search, search, follow,
    JsonDocument.resolve_congr htext hindex]
  cases SourceChain.builtin.resolve first (.ofJson j) .sensitive with
  | resolved next => rfl
  | notApplicable => rfl
  | error kind => rfl

/-- **Paths through documents.** In a document an object is entered by the name of a member, an
array by the index that a text writes, and nothing else is. A path that starts at the value of a
document is followed where its texts lead in the document, to the value of the part that they lead
to; and it fails at the first text that is refused, for the reason that it is refused for. -/
theorem follow_ofJson (hss : ∀ s ∈ ss, s.IsSegment) (ht : t.current = .ofJson j) :
    (∀ u, follow .builtin .sensitive t ss = .ok u ↔
      ∃ j', j.Leads (ss.map Selector.text) j' ∧
        u = ⟨.ofJson j', t.depth + ss.length, t.resolved ++ ss.map Selector.text⟩) ∧
    (∀ f, follow .builtin .sensitive t ss = .error f ↔
      ∃ front text back j' kind, ss.map Selector.text = front ++ text :: back ∧
        j.Leads front j' ∧ (¬ ∃ j'', j'.Enters text j'') ∧ j'.Refuses text kind ∧
        f = ⟨kind, text, t.depth + front.length, t.resolved ++ front⟩) ∧
    (∀ s ∈ ss, ∀ (j : JsonDocument) (v : Value),
      SourceChain.builtin.resolve s (.ofJson j) .sensitive = .resolved v ↔
        ∃ j', j.Enters s.text j' ∧ v = .ofJson j') ∧
    ∀ first rest, ss = first :: rest → argument? [.ofJson j] first = none →
      resolve .builtin .sensitive [.ofJson j] ss =
        follow .builtin .sensitive { current := .ofJson j } ss := by
  have hcourse := JsonDocument.leads_or_stops j (ss.map Selector.text)
  refine ⟨fun u ↦ ⟨fun h ↦ ?_, ?_⟩, fun f ↦ ⟨fun h ↦ ?_, ?_⟩, fun s hs j v ↦ ?_, ?_⟩
  · rcases hcourse with ⟨j', hleads⟩ | ⟨front, text, back, j', kind, htexts, hleads, hrefuses⟩
    · rw [follow_of_leads hss ht hleads] at h
      exact ⟨j', hleads, (Except.ok.inj h).symm⟩
    · rw [follow_of_refuses hss ht htexts hleads hrefuses] at h
      exact absurd h nofun
  · rintro ⟨j', hleads, rfl⟩
    exact follow_of_leads hss ht hleads
  · rcases hcourse with ⟨j', hleads⟩ | ⟨front, text, back, j', kind, htexts, hleads, hrefuses⟩
    · rw [follow_of_leads hss ht hleads] at h
      exact absurd h nofun
    · rw [follow_of_refuses hss ht htexts hleads hrefuses] at h
      exact ⟨front, text, back, j', kind, htexts, hleads, hrefuses.not_enters, hrefuses,
        (Except.error.inj h).symm⟩
  · rintro ⟨front, text, back, j', kind, htexts, hleads, -, hrefuses, rfl⟩
    exact follow_of_refuses hss ht htexts hleads hrefuses
  · exact JsonDocument.resolve_eq_resolved_iff (hss s hs)
  · rintro first rest rfl hargument
    exact resolve_sole_ofJson (hss first List.mem_cons_self) hargument

/-- An order whose second member has a number for a name. -/
def orderSample : JsonDocument :=
  .object [("Order", .object [("Items", .array [.string "tea", .string "cake"]),
    ("1", .string "first")])]

/-- The same text is a name in the order and an index in its items, where the next one is out of
range. -/
theorem follow_ofJson_orderSample :
    let path : List String → List Selector := List.map (Selector.ofText · default false)
    let start : Trail := { current := .ofJson orderSample }
    (∀ texts, ∀ s ∈ path texts, s.IsSegment) ∧ start.current = .ofJson orderSample ∧
      follow .builtin .sensitive start (path ["Order", "1"]) =
        .ok ⟨.str "first", 2, ["Order", "1"]⟩ ∧
      follow .builtin .sensitive start (path ["Order", "Items", "1"]) =
        .ok ⟨.str "cake", 3, ["Order", "Items", "1"]⟩ ∧
      follow .builtin .sensitive start (path ["Order", "Items", "2"]) =
        .error ⟨.indexOutOfRange 2 2, "2", 2, ["Order", "Items"]⟩ := by
  intro path start
  have hpath : ∀ texts, ∀ s ∈ path texts, s.IsSegment := by
    intro texts s hs
    obtain ⟨text, -, rfl⟩ := List.mem_map.mp hs
    exact ⟨false, rfl⟩
  let items : List JsonDocument := [.string "tea", .string "cake"]
  let members : List (String × JsonDocument) := [("Items", .array items), ("1", .string "first")]
  have horder : JsonDocument.Enters (.object ([] ++ ("Order", .object members) :: [])) "Order"
      (.object members) := .member nofun
  have hone : JsonDocument.Enters
      (.object ([("Items", .array items)] ++ ("1", .string "first") :: []))
      "1" (.string "first") := .member nofun
  have hitems : JsonDocument.Enters
      (.object ([] ++ ("Items", .array items) :: [("1", .string "first")]))
      "Items" (.array items) := .member (by decide)
  have hcake : JsonDocument.Enters (.array items) "1" (.string "cake") :=
    .item (k := 1) (Nat.lt_succ_self 1) (by decide) rfl
  have hrange : JsonDocument.Refuses (.array items) "2" (.indexOutOfRange 2 2) :=
    .outOfRange (by decide) (by decide)
  refine ⟨hpath, rfl, ?_, ?_, ?_⟩
  · exact ((follow_ofJson (hpath _) rfl).1 _).mpr ⟨_, .step horder (.step hone .here), rfl⟩
  · exact ((follow_ofJson (hpath _) rfl).1 _).mpr
      ⟨_, .step horder (.step hitems (.step hcake .here)), rfl⟩
  · exact ((follow_ofJson (hpath _) rfl).2.1 _).mpr ⟨["Order", "Items"], "2", [], .array items, _,
      rfl, .step horder (.step hitems .here), hrange.not_enters, hrange, rfl⟩

end Path

end TextTemplate
