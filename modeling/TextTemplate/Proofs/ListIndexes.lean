import TextTemplate.Proofs.ChainedPaths
import TextTemplate.Proofs.SourceChains

/-!
# Integers against lists

A list owns the selectors that denote an integer. It gives the item with that index, or it refuses an
integer that is negative or too great, and in either case no other source and no other argument is
asked.

## Which integers a selector denotes

What a selector denotes is a 64-bit integer. A segment may have any number of digits, and one whose
integer 64 bits do not hold denotes none: it is a name like any other, and no list owns it. So the
rule holds for all integers of 64 bits, however many zeros they are written with, while an integer
beyond them is looked up in the next argument.
-/

namespace TextTemplate

/-! ## What a segment denotes -/

namespace Numeral

theorem int64?_eq_some_iff {n : Int} {k : Int64} : int64? n = some k ↔ k.toInt = n := by
  constructor
  · intro h
    rw [int64?] at h
    split at h
    · rename_i hn
      obtain rfl := Option.some.inj h
      exact Int64.toInt_ofInt_of_le hn.1 (Int.lt_add_one_of_le hn.2)
    · exact absurd h nofun
  · rintro rfl
    rw [int64?, if_pos ⟨k.minValue_le_toInt, k.toInt_le⟩, Int64.ofInt_toInt]

theorem int64?_eq_none_iff {n : Int} : int64? n = none ↔ ¬ ∃ k : Int64, k.toInt = n := by
  rw [Option.eq_none_iff_forall_ne_some, not_exists]
  exact forall_congr' fun k ↦ not_congr int64?_eq_some_iff

end Numeral

namespace Selector

/-- A leading segment denotes the integer that it denotes elsewhere. -/
theorem index?_ofText (text : String) (span : Span) (leading : Bool) :
    (ofText text span leading).index? = integer? text := by
  unfold ofText index?
  cases integer? text with
  | none => rfl
  | some n =>
    by_cases hlead : (leading && decide (0 ≤ n)) = true
    · have hle : 0 ≤ n.toInt := by
        rw [← Int64.toInt_zero]
        exact Int64.le_iff_toInt_le.mp (of_decide_eq_true (Bool.and_eq_true_iff.mp hlead).2)
      simp only [hlead, if_true]
      exact Numeral.int64?_eq_some_iff.mpr (Int.toNat_of_nonneg hle).symm
    · simp only [hlead, if_false, Bool.false_eq_true]

/-- Reading a segment as a list index does not change the integer that it denotes. -/
theorem index?_asIndex_ofText (text : String) (span : Span) (leading : Bool) :
    (ofText text span leading).asIndex.index? = integer? text := by
  cases leading with
  | true => rw [asIndex_ofText, index?_ofText]
  | false =>
    have hsame : (ofText text span false).asIndex = ofText text span false := by
      unfold ofText asIndex
      cases integer? text <;> rfl
    rw [hsame, index?_ofText]

end Selector

/-! ## What a list answers -/

/-- The answers of a list to an integer: its item, or one of two ways to refuse. -/
inductive SourceOutcome.AnswersIndex (items : List Value) (n : Int) : SourceOutcome → Prop
  | item {i : Nat} (h : i < items.length) : n = i → AnswersIndex items n (.resolved items[i])
  | outOfRange {k : Int64} : k.toInt = n → (items.length : Int) ≤ n →
      AnswersIndex items n (.error (.indexOutOfRange k items.length))
  | negative {k : Int64} : k.toInt = n → n < 0 →
      AnswersIndex items n (.error (.negativeIndex k))

theorem SourceOutcome.AnswersIndex.ne_notApplicable {items : List Value} {n : Int}
    {outcome : SourceOutcome} (h : outcome.AnswersIndex items n) : outcome ≠ .notApplicable := by
  rintro rfl
  cases h

namespace SourceOutcome.AnswersIndex

variable {items : List Value} {outcome : SourceOutcome}

theorem eq_resolved {i : Nat} (h : outcome.AnswersIndex items i) (hi : i < items.length) :
    outcome = .resolved items[i] := by
  cases h with
  | item _ heq =>
    obtain rfl := Int.ofNat_inj.mp heq
    rfl
  | outOfRange _ hle => exact absurd (Int.ofNat_le.mp hle) (Nat.not_le.mpr hi)
  | negative _ hneg => exact absurd hneg (Int.not_lt.mpr (Int.natCast_nonneg i))

theorem eq_negativeIndex {k : Int64} (h : outcome.AnswersIndex items k.toInt)
    (hneg : k.toInt < 0) : outcome = .error (.negativeIndex k) := by
  cases h with
  | item _ heq => exact absurd hneg (heq ▸ Int.not_lt.mpr (Int.natCast_nonneg _))
  | outOfRange _ hle => exact absurd (Int.lt_of_le_of_lt hle hneg) (Int.not_lt.mpr (Int.natCast_nonneg _))
  | negative hk _ => rw [Int64.toInt_inj.mp hk]

theorem eq_indexOutOfRange {k : Int64} (h : outcome.AnswersIndex items k.toInt)
    (hle : (items.length : Int) ≤ k.toInt) :
    outcome = .error (.indexOutOfRange k items.length) := by
  cases h with
  | item hlt heq => exact absurd (Int.ofNat_le.mp (heq ▸ hle)) (Nat.not_le.mpr hlt)
  | outOfRange hk _ => rw [Int64.toInt_inj.mp hk]
  | negative _ hneg => exact absurd (Int.lt_of_le_of_lt hle hneg) (Int.not_lt.mpr (Int.natCast_nonneg _))

end SourceOutcome.AnswersIndex

namespace ValueSource

variable {items : List Value} {s : Selector}

theorem answersIndex_findItem {k : Int64} (h : s.index? = some k) :
    (findItem items s).AnswersIndex items k.toInt := by
  have hsign : k < 0 ↔ k.toInt < 0 := by
    rw [Int64.lt_iff_toInt_lt, Int64.toInt_zero]
  simp only [findItem, h, hsign]
  by_cases hneg : k.toInt < 0
  · rw [if_pos hneg]
    exact .negative rfl hneg
  · rw [if_neg hneg]
    by_cases hlt : k.toInt.toNat < items.length
    · rw [List.getElem?_eq_getElem hlt]
      exact .item hlt (Int.toNat_of_nonneg (Int.not_lt.mp hneg)).symm
    · rw [List.getElem?_eq_none (Nat.not_lt.mp hlt)]
      exact .outOfRange rfl (by omega)

theorem findItem_eq_notApplicable (h : s.index? = none) : findItem items s = .notApplicable := by
  simp only [findItem, h]

end ValueSource

/-! ## Behind a list -/

/-- What a list answers in a chain, more sources are not asked. -/
theorem SourceChain.resolve_append_of_ne {xs : SourceChain} {s : Selector} {v : Value}
    {case : CaseSensitivity} (h : xs.resolve s v case ≠ .notApplicable) (ys : SourceChain) :
    resolve (xs ++ ys) s v case = resolve xs s v case := by
  rw [resolve_append]
  cases houtcome : xs.resolve s v case with
  | notApplicable => exact absurd houtcome h
  | resolved w => rfl
  | error kind => rfl

/-- An argument that answers at all ends the search. -/
theorem Path.search_cons_congr {sources : SourceChain} {case : CaseSensitivity} {s : Selector}
    {v : Value} (h : sources.resolve s.asIndex v case ≠ .notApplicable) (args args' : List Value) :
    search sources case s (v :: args) = search sources case s (v :: args') := by
  rw [search, search]
  cases houtcome : sources.resolve s.asIndex v case with
  | notApplicable => exact absurd houtcome h
  | resolved w => rfl
  | error kind => rfl

/-- **Integers against lists.** Let a text be an integer with at most a minus sign, of any number of
digits. If 64 bits hold the integer, a list answers with its item, or with an error that says why it
has none, and neither the sources behind the built-in ones nor the arguments behind the list matter.
If they do not, the text is a name: the list passes it on to the other sources and to the next
argument. -/
theorem SourceChain.resolve_integer {text : String} {n : Int}
    (h : Numeral.integer? text.toList = some n) (items : List Value) (span : Span) (leading : Bool)
    (case : CaseSensitivity) (others : SourceChain) :
    let s := Selector.ofText text span leading
    ((∃ k : Int64, k.toInt = n) → ∃ outcome : SourceOutcome, outcome.AnswersIndex items n ∧
      builtin.resolve s (.list items) case = outcome ∧
      resolve (builtin ++ others) s (.list items) case = outcome ∧
      ∀ args args', Path.search (builtin ++ others) case s (.list items :: args) =
        Path.search (builtin ++ others) case s (.list items :: args')) ∧
    ((¬ ∃ k : Int64, k.toInt = n) → builtin.resolve s (.list items) case = .notApplicable ∧
      resolve (builtin ++ others) s (.list items) case = others.resolve s (.list items) case ∧
      ∀ args, Path.search builtin case s (.list items :: args) =
        Path.search builtin case s args) := by
  intro s
  have hinteger : Selector.integer? text = Numeral.int64? n := by
    rw [Selector.integer?, h, Option.bind_some]
  have hindex : s.index? = Numeral.int64? n := by
    rw [← hinteger, Selector.index?_ofText]
  have hasIndex : s.asIndex.index? = Numeral.int64? n := by
    rw [← hinteger, Selector.index?_asIndex_ofText]
  constructor
  · rintro ⟨k, rfl⟩
    rw [Numeral.int64?_eq_some_iff.mpr rfl] at hindex hasIndex
    have hs : (builtin.resolve s (.list items) case).AnswersIndex items k.toInt := by
      rw [builtin_list]
      exact ValueSource.answersIndex_findItem hindex
    have hroot : (builtin.resolve s.asIndex (.list items) case).AnswersIndex items k.toInt := by
      rw [builtin_list]
      exact ValueSource.answersIndex_findItem hasIndex
    refine ⟨_, hs, rfl, resolve_append_of_ne hs.ne_notApplicable others, fun args args' ↦ ?_⟩
    refine Path.search_cons_congr ?_ args args'
    rw [resolve_append_of_ne hroot.ne_notApplicable others]
    exact hroot.ne_notApplicable
  · intro hnone
    rw [Numeral.int64?_eq_none_iff.mpr hnone] at hindex hasIndex
    have hs : builtin.resolve s (.list items) case = .notApplicable := by
      rw [builtin_list, ValueSource.findItem_eq_notApplicable hindex]
    have hroot : builtin.resolve s.asIndex (.list items) case = .notApplicable := by
      rw [builtin_list, ValueSource.findItem_eq_notApplicable hasIndex]
    refine ⟨hs, ?_, fun args ↦ ?_⟩
    · rw [resolve_append, hs]
    · rw [Path.search, hroot]

/-- One, written with more digits than any 64-bit integer has, leads to the second item. -/
theorem SourceChain.resolve_integer_paddedSample :
    let s := Selector.ofText "0000000000000000000000001" ⟨1, 26⟩ true
    let v : Value := .list [.str "a", .str "b"]
    let others : SourceChain := [.custom .fallback]
    Numeral.integer? "0000000000000000000000001".toList = some 1 ∧ (∃ k : Int64, k.toInt = 1) ∧
      resolve (builtin ++ others) s v .sensitive = .resolved (.str "b") ∧
      (SourceOutcome.resolved (.str "b")).AnswersIndex [.str "a", .str "b"] 1 ∧
      ∀ args args', Path.search (builtin ++ others) .sensitive s (v :: args) =
        Path.search (builtin ++ others) .sensitive s (v :: args') := by
  intro s v others
  have hinteger : Numeral.integer? "0000000000000000000000001".toList = some 1 := by decide
  have hone : ∃ k : Int64, k.toInt = 1 := ⟨1, rfl⟩
  obtain ⟨outcome, hanswers, hbuiltin, hothers, hsearch⟩ :=
    (resolve_integer hinteger [.str "a", .str "b"] ⟨1, 26⟩ true .sensitive others).1 hone
  have hresolved : builtin.resolve s v .sensitive = .resolved (.str "b") := rfl
  obtain rfl : outcome = .resolved (.str "b") := hbuiltin.symm.trans hresolved
  exact ⟨hinteger, hone, hothers, hanswers, hsearch⟩

/-- The first integer that 64 bits do not hold is no index, and the argument behind the list is
asked for it. -/
theorem SourceChain.resolve_hugeSample :
    let text := "9223372036854775808"
    let s := Selector.ofText text ⟨1, 20⟩ true
    let map : Value := .map ⟨[(.str text, .str "x")]⟩
    Numeral.integer? text.toList = some 9223372036854775808 ∧
      builtin.resolve s (.list [.str "a"]) .sensitive = .notApplicable ∧
      (format "\x7b9223372036854775808\x7d" [.list [.str "a"], map] {}).toOption = some "x" := by
  intro text s map
  have hindex : s.index? = none := by decide +kernel
  refine ⟨by decide +kernel, ?_, by decide +kernel⟩
  rw [builtin_list, ValueSource.findItem_eq_notApplicable hindex]

end TextTemplate
