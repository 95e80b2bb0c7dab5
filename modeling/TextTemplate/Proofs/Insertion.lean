import Mathlib.Data.List.Forall2
import Mathlib.Data.List.Induction
import TextTemplate.Value.Basic

/-!
# Maps from pairs in sequence

`OrderedMap.ofList` inserts pairs one after another. What comes of it can be told from the pairs:
the keys are those of the pairs without repetitions, and a key has its last value. Two sequences
with the same keys make maps with the same keys, and what holds between their values holds between
the values that look-ups give.
-/

namespace TextTemplate.OrderedMap

variable {κ α : Type}

/-! ## Look-ups by a test -/

theorem findFirst?_cons_of_pos {test : κ → Bool} {e : κ × α} (h : test e.1 = true)
    (es : List (κ × α)) : findFirst? ⟨e :: es⟩ test = some e.2 := by
  simp [findFirst?, h]

theorem findFirst?_cons_of_neg {test : κ → Bool} {e : κ × α} (h : test e.1 = false)
    (es : List (κ × α)) : findFirst? ⟨e :: es⟩ test = findFirst? ⟨es⟩ test := by
  simp [findFirst?, h]

theorem findFirst?_map {κ' : Type} (f : κ → κ') (m : OrderedMap κ α) (test : κ' → Bool) :
    findFirst? ⟨m.entries.map fun e ↦ (f e.1, e.2)⟩ test = m.findFirst? (test ∘ f) := by
  simp only [findFirst?, List.find?_map, Option.map_map]
  rfl

theorem exists_of_findFirst? {m : OrderedMap κ α} {test : κ → Bool} {v : α}
    (h : m.findFirst? test = some v) : ∃ e ∈ m.entries, e.2 = v := by
  obtain ⟨e, he, rfl⟩ := Option.map_eq_some_iff.mp h
  exact ⟨e, List.mem_of_find?_eq_some he, rfl⟩

theorem findFirst?_eq_none {m : OrderedMap κ α} {test : κ → Bool}
    (h : ∀ k ∈ m.keys, test k = false) : m.findFirst? test = none := by
  rw [findFirst?, Option.map_eq_none_iff, List.find?_eq_none]
  intro e he
  rw [h e.1 (List.mem_map_of_mem he)]
  exact Bool.false_ne_true

section

variable [DecidableEq κ]

theorem get?_cons_self (e : κ × α) (es : List (κ × α)) : get? ⟨e :: es⟩ e.1 = some e.2 := by
  have htest : (fun k' ↦ decide (k' = e.1)) e.1 = true := decide_eq_true rfl
  rw [get?, findFirst?_cons_of_pos htest]

theorem get?_cons_of_ne {e : κ × α} {k : κ} (h : e.1 ≠ k) (es : List (κ × α)) :
    get? ⟨e :: es⟩ k = get? ⟨es⟩ k := by
  have htest : (fun k' ↦ decide (k' = k)) e.1 = false := decide_eq_false h
  rw [get?, get?, findFirst?_cons_of_neg htest]

/-- Pairs in front that have other keys are passed over. -/
theorem get?_append_of_forall_ne {es : List (κ × α)} {k : κ} (h : ∀ e ∈ es, e.1 ≠ k)
    (es' : List (κ × α)) : get? ⟨es ++ es'⟩ k = get? ⟨es'⟩ k := by
  induction es with
  | nil => rfl
  | cons e es ih =>
    rw [List.forall_mem_cons] at h
    rw [List.cons_append, get?_cons_of_ne h.1]
    exact ih h.2

theorem get?_mapValues {β : Type} (f : α → β) (es : List (κ × α)) (k : κ) :
    get? ⟨es.map fun e ↦ (e.1, f e.2)⟩ k = (get? ⟨es⟩ k).map f := by
  induction es with
  | nil => rfl
  | cons e es ih =>
    rw [List.map_cons]
    by_cases he : e.1 = k
    · rw [← he, get?_cons_self e, Option.map_some]
      exact get?_cons_self (e.1, f e.2) _
    · have he' : (e.1, f e.2).1 ≠ k := he
      rw [get?_cons_of_ne he, ← ih]
      exact get?_cons_of_ne he' _

/-- The first key that passes a test leads to the value of the first entry that does. -/
theorem bind_get?_find?_keys (m : OrderedMap κ α) (test : κ → Bool) :
    (m.keys.find? test).bind m.get? = m.findFirst? test := by
  obtain ⟨es⟩ := m
  induction es with
  | nil => rfl
  | cons e es ih =>
    have hkeys : keys ⟨e :: es⟩ = e.1 :: keys ⟨es⟩ := rfl
    rw [hkeys]
    by_cases he : test e.1 = true
    · rw [List.find?_cons_of_pos he, findFirst?_cons_of_pos he, Option.bind_some,
        get?_cons_self]
    · rw [List.find?_cons_of_neg he, findFirst?_cons_of_neg (Bool.not_eq_true _ ▸ he), ← ih]
      -- A key that passes the test is not the one in front.
      refine Option.bind_congr fun k hk ↦ ?_
      have hne : e.1 ≠ k := by
        rintro rfl
        exact he (List.find?_some hk)
      exact get?_cons_of_ne hne es

/-! ## Keys without repetitions -/

theorem nodup_keys_insert {m : OrderedMap κ α} (h : m.keys.Nodup) (k : κ) (v : α) :
    (m.insert k v).keys.Nodup := by
  rw [keys_insert]
  by_cases hk : k ∈ m.keys
  · rwa [if_pos hk]
  · rw [if_neg hk]
    refine List.nodup_append.mpr ⟨h, List.nodup_cons.mpr ⟨List.not_mem_nil, List.nodup_nil⟩, ?_⟩
    rintro k' hk' _ hmem rfl
    exact hk (List.mem_singleton.mp hmem ▸ hk')

theorem size_insert_le (m : OrderedMap κ α) (k : κ) (v : α) : (m.insert k v).size ≤ m.size + 1 := by
  have hsize : ∀ m : OrderedMap κ α, m.keys.length = m.size := fun _ ↦ List.length_map _
  rw [← hsize, ← hsize, keys_insert]
  by_cases hk : k ∈ m.keys
  · rw [if_pos hk]
    exact Nat.le_succ _
  · rw [if_neg hk]
    exact Nat.le_of_eq List.length_append

/-- Where no key comes twice, every entry is found under its key. -/
theorem get?_of_mem_entries {m : OrderedMap κ α} (h : m.keys.Nodup) {e : κ × α}
    (he : e ∈ m.entries) : m.get? e.1 = some e.2 := by
  obtain ⟨es⟩ := m
  induction es with
  | nil => exact absurd he List.not_mem_nil
  | cons e' es ih =>
    obtain ⟨hfresh, hes⟩ := List.nodup_cons.mp h
    rcases List.mem_cons.mp he with rfl | he
    · exact get?_cons_self e es
    · have hne : e'.1 ≠ e.1 := fun hkey ↦ hfresh (hkey ▸ List.mem_map_of_mem he)
      rw [get?_cons_of_ne hne]
      exact ih hes he

/-! ## Insertion, pair by pair -/

theorem ofList_concat (es : List (κ × α)) (e : κ × α) :
    ofList (es ++ [e]) = (ofList es).insert e.1 e.2 := by
  rw [ofList, List.foldl_concat, ofList]

/-- The keys are those of the pairs, each where it comes first. -/
theorem keys_ofList (es : List (κ × α)) : (ofList es).keys = (es.map Prod.fst).eraseDups := by
  induction es using List.reverseRecOn with
  | nil => rfl
  | append_singleton es e ih =>
    rw [ofList_concat, keys_insert, ih, List.map_append, List.eraseDups_append, List.map_singleton]
    by_cases he : e.1 ∈ es.map Prod.fst
    · have hremoved : [e.1].removeAll (es.map Prod.fst) = [] := by simp [List.removeAll, he]
      rw [if_pos (List.mem_eraseDups.mpr he), hremoved, List.eraseDups_nil, List.append_nil]
    · have hkept : [e.1].removeAll (es.map Prod.fst) = [e.1] := by simp [List.removeAll, he]
      rw [if_neg (mt List.mem_eraseDups.mp he), hkept]
      rfl

/-- A key has the value of the last pair that it stands in. -/
theorem get?_ofList (es : List (κ × α)) (k : κ) :
    (ofList es).get? k = get? ⟨es.reverse⟩ k := by
  induction es using List.reverseRecOn with
  | nil => rfl
  | append_singleton es e ih =>
    rw [ofList_concat, List.reverse_append, List.reverse_singleton, List.singleton_append]
    by_cases he : e.1 = k
    · subst he
      rw [get?_insert_self, get?_cons_self]
    · rw [get?_insert_of_ne _ _ (Ne.symm he), ih, get?_cons_of_ne he]

/-- The last pair of a key is found as the first one in the reversed sequence. -/
theorem get?_reverse_eq_some_iff {es : List (κ × α)} {k : κ} {v : α} :
    get? ⟨es.reverse⟩ k = some v ↔
      ∃ before after, es = before ++ (k, v) :: after ∧ ∀ e ∈ after, e.1 ≠ k := by
  constructor
  · intro h
    obtain ⟨e, hfind, rfl⟩ := Option.map_eq_some_iff.mp h
    obtain ⟨he, after, before, hes, hafter⟩ := List.find?_eq_some_iff_append.mp hfind
    obtain rfl : e.1 = k := of_decide_eq_true he
    refine ⟨before.reverse, after.reverse, ?_, fun e' he' ↦ ?_⟩
    · rw [List.reverse_eq_iff.mp hes, List.reverse_append, List.reverse_cons,
        List.append_assoc, List.singleton_append]
    · have hne := hafter e' (List.mem_reverse.mp he')
      rwa [Bool.not_eq_true', decide_eq_false_iff_not] at hne
  · rintro ⟨before, after, rfl, hafter⟩
    have hskip : ∀ e ∈ after.reverse, e.1 ≠ k := fun e he ↦ hafter e (List.mem_reverse.mp he)
    rw [List.reverse_append, List.reverse_cons, List.append_assoc, List.singleton_append,
      get?_append_of_forall_ne hskip]
    exact get?_cons_self (k, v) before.reverse

theorem get?_reverse_eq_none_iff {es : List (κ × α)} {k : κ} :
    get? ⟨es.reverse⟩ k = none ↔ ∀ e ∈ es, e.1 ≠ k := by
  rw [get?, findFirst?, Option.map_eq_none_iff, List.find?_eq_none]
  simp only [List.mem_reverse, decide_eq_true_eq, ne_eq]

theorem insertEntry_of_not_mem {e : κ × α} {es : List (κ × α)} (h : e.1 ∉ es.map Prod.fst) :
    insertEntry e.1 e.2 es = es ++ [e] := by
  induction es with
  | nil => rfl
  | cons e' es ih =>
    rw [List.map_cons, List.mem_cons, not_or] at h
    rw [insertEntry, if_neg (Ne.symm h.1), ih h.2, List.cons_append]

/-- Pairs whose keys are not repeated are the entries of the map that they make. -/
theorem ofList_of_nodup {es : List (κ × α)} (h : (es.map Prod.fst).Nodup) : ofList es = ⟨es⟩ := by
  induction es using List.reverseRecOn with
  | nil => rfl
  | append_singleton es e ih =>
    rw [List.map_append, List.map_singleton] at h
    obtain ⟨hes, -, hfresh⟩ := List.nodup_append.mp h
    have hnew : e.1 ∉ es.map Prod.fst := fun hmem ↦ hfresh e.1 hmem e.1 List.mem_cons_self rfl
    rw [ofList_concat, ih hes, insert, insertEntry_of_not_mem hnew]

/-- Other names for the keys may be given before the insertion or behind it. -/
theorem ofList_map {κ' : Type} [DecidableEq κ'] {f : κ → κ'} (hf : ∀ k k', f k = f k' → k = k')
    (es : List (κ × α)) :
    ofList (es.map fun e ↦ (f e.1, e.2)) = ⟨(ofList es).entries.map fun e ↦ (f e.1, e.2)⟩ := by
  have hinsert : ∀ k (v : α) (es : List (κ × α)),
      insertEntry (f k) v (es.map fun e ↦ (f e.1, e.2)) =
        (insertEntry k v es).map fun e ↦ (f e.1, e.2) := by
    intro k v es
    induction es with
    | nil => rfl
    | cons e es ih =>
      rw [List.map_cons, insertEntry, insertEntry]
      by_cases he : e.1 = k
      · rw [if_pos he, if_pos (congrArg f he), List.map_cons]
      · rw [if_neg he, if_neg (mt (hf _ _) he), ih, List.map_cons]
  induction es using List.reverseRecOn with
  | nil => rfl
  | append_singleton es e ih =>
    rw [List.map_append, List.map_singleton, ofList_concat, ofList_concat, ih]
    exact congrArg OrderedMap.mk (hinsert e.1 e.2 (ofList es).entries)

end

/-! ## Maps side by side -/

/-- Entries with the same keys in the same order, and values for which a relation holds. -/
abbrev Entrywise (R : α → α → Prop) (es es' : List (κ × α)) : Prop :=
  List.Forall₂ (fun e e' ↦ e'.1 = e.1 ∧ R e.2 e'.2) es es'

namespace Entrywise

variable {R : α → α → Prop} {es es' : List (κ × α)}

theorem of_keys (hkeys : es'.map Prod.fst = es.map Prod.fst)
    (hvalues : List.Forall₂ R (es.map Prod.snd) (es'.map Prod.snd)) : Entrywise R es es' := by
  have hnames : List.Forall₂ (fun k k' ↦ k' = k) (es.map Prod.fst) (es'.map Prod.fst) := by
    rw [hkeys]
    exact List.forall₂_same.mpr fun _ _ ↦ rfl
  rw [List.forall₂_map_left_iff, List.forall₂_map_right_iff] at hvalues hnames
  exact hnames.mp (fun _ _ hkey hvalue ↦ ⟨hkey, hvalue⟩) hvalues

theorem findFirst? (h : Entrywise R es es') (test : κ → Bool) :
    Option.Rel R (OrderedMap.findFirst? ⟨es⟩ test) (OrderedMap.findFirst? ⟨es'⟩ test) := by
  induction h with
  | nil => exact .none
  | @cons e e' es es' he _ ih =>
    by_cases htest : test e.1 = true
    · rw [findFirst?_cons_of_pos htest, findFirst?_cons_of_pos (he.1 ▸ htest)]
      exact .some he.2
    · rw [Bool.not_eq_true] at htest
      rw [findFirst?_cons_of_neg htest, findFirst?_cons_of_neg (he.1 ▸ htest)]
      exact ih

variable [DecidableEq κ]

/-- Inserting values for which the relation holds keeps it. -/
theorem insertEntry (h : Entrywise R es es') (k : κ) {v v' : α} (hv : R v v') :
    Entrywise R (OrderedMap.insertEntry k v es) (OrderedMap.insertEntry k v' es') := by
  induction h with
  | nil => exact .cons ⟨rfl, hv⟩ .nil
  | @cons e e' es es' he htail ih =>
    rw [OrderedMap.insertEntry, OrderedMap.insertEntry]
    by_cases hk : e.1 = k
    · rw [if_pos hk, if_pos (he.1.trans hk)]
      exact .cons ⟨he.1, hv⟩ htail
    · rw [if_neg hk, if_neg (he.1 ▸ hk)]
      exact .cons he ih

/-- Pairs with the same keys and matching values make maps that match. -/
theorem ofList (h : Entrywise R es es') :
    Entrywise R (OrderedMap.ofList es).entries (OrderedMap.ofList es').entries := by
  have hfold : ∀ m m' : OrderedMap κ α, Entrywise R m.entries m'.entries →
      Entrywise R (es.foldl (fun m e ↦ m.insert e.1 e.2) m).entries
        (es'.foldl (fun m e ↦ m.insert e.1 e.2) m').entries := by
    induction h with
    | nil => exact fun _ _ hm ↦ hm
    | @cons e e' es es' he _ ih =>
      intro m m' hm
      rw [List.foldl_cons, List.foldl_cons, he.1]
      exact ih _ _ (hm.insertEntry e.1 he.2)
  exact hfold .empty .empty .nil

end Entrywise

end TextTemplate.OrderedMap
