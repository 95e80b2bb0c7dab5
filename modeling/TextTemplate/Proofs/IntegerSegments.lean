import TextTemplate.Proofs.ListIndexes

/-!
# Which segments are integers

A segment is read twice where its path begins with an integer: as the index of an argument, and, if
there is no such argument, as a list index. Both readings are of the same integer, and which
segments have one is a matter of how they are written: at most a minus sign, then decimal digits, of
an integer that 64 bits hold. Zeros in front do not count, and neither does the sign of zero.

`Numeral.Writes` says what is written in terms of the weights of the digits, while the reader goes
through them from the left.
-/

namespace TextTemplate

namespace Numeral

/-- The number that decimal digits denote: each of them counts as often as ten to the number of
digits behind it. -/
def weigh : List Char → Nat
  | [] => 0
  | c :: cs => (c.toNat - '0'.toNat) * Nat.pow 10 cs.length + weigh cs

/-- An integer as it is written: decimal digits, with at most a minus sign in front. -/
inductive Writes : List Char → Int → Prop
  | digits {cs : List Char} : cs ≠ [] → (∀ c ∈ cs, c.isDigit = true) → Writes cs (weigh cs)
  | minus {cs : List Char} : cs ≠ [] → (∀ c ∈ cs, c.isDigit = true) →
      Writes ('-' :: cs) (-(weigh cs : Int))

theorem ofDigitChars_eq_weigh (cs : List Char) : Nat.ofDigitChars 10 cs 0 = weigh cs := by
  induction cs with
  | nil => exact Nat.ofDigitChars_nil
  | cons c cs ih =>
    rw [Nat.ofDigitChars_cons, Nat.mul_zero, Nat.zero_add, Nat.ofDigitChars_eq_ofDigitChars_zero,
      ih, weigh, Nat.mul_comm]
    rfl

theorem natural?_eq_some_iff {cs : List Char} {n : Nat} :
    natural? cs = some n ↔ cs ≠ [] ∧ (∀ c ∈ cs, c.isDigit = true) ∧ n = weigh cs := by
  constructor
  · intro h
    have hdigits : ∀ c ∈ cs, c.isDigit = true := fun c hc ↦ isDigit_of_natural? h hc
    have hne : cs ≠ [] := by
      rintro rfl
      exact absurd h nofun
    rw [natural?_of_digits hdigits hne, ofDigitChars_eq_weigh] at h
    exact ⟨hne, hdigits, (Option.some.inj h).symm⟩
  · rintro ⟨hne, hdigits, rfl⟩
    rw [natural?_of_digits hdigits hne, ofDigitChars_eq_weigh]

/-- The reader of integers reads what is written. -/
theorem integer?_eq_some_iff {cs : List Char} {n : Int} : integer? cs = some n ↔ Writes cs n := by
  constructor
  · intro h
    unfold integer? at h
    split at h
    · obtain ⟨m, hm, rfl⟩ := Option.map_eq_some_iff.mp h
      obtain ⟨hne, hdigits, rfl⟩ := natural?_eq_some_iff.mp hm
      exact .minus hne hdigits
    · obtain ⟨m, hm, rfl⟩ := Option.map_eq_some_iff.mp h
      obtain ⟨hne, hdigits, rfl⟩ := natural?_eq_some_iff.mp hm
      exact .digits hne hdigits
  · intro h
    cases h with
    | digits hne hdigits =>
      rw [integer?_of_digits hdigits, natural?_eq_some_iff.mpr ⟨hne, hdigits, rfl⟩]
      rfl
    | minus hne hdigits =>
      rw [integer?, natural?_eq_some_iff.mpr ⟨hne, hdigits, rfl⟩]
      rfl

/-- Whether 64 bits hold an integer. -/
def Fits (n : Int) : Prop := Int64.minValue.toInt ≤ n ∧ n ≤ Int64.maxValue.toInt

theorem fits_toInt (k : Int64) : Fits k.toInt := ⟨k.minValue_le_toInt, k.toInt_le⟩

theorem map_int64?_eq_some_iff {m n : Int} :
    (int64? m).map Int64.toInt = some n ↔ m = n ∧ Fits n := by
  constructor
  · intro h
    obtain ⟨k, hk, rfl⟩ := Option.map_eq_some_iff.mp h
    exact ⟨(int64?_eq_some_iff.mp hk).symm, fits_toInt k⟩
  · rintro ⟨rfl, hfits⟩
    refine Option.map_eq_some_iff.mpr ⟨Int64.ofInt m, if_pos hfits, ?_⟩
    exact Int64.toInt_ofInt_of_le hfits.1 (Int.lt_add_one_of_le hfits.2)

end Numeral

namespace Selector

open Numeral (Writes Fits)

/-- A segment has the integer that it writes, if 64 bits hold it. -/
theorem map_integer?_eq_some_iff {text : String} {n : Int} :
    (integer? text).map Int64.toInt = some n ↔ Writes text.toList n ∧ Fits n := by
  rw [integer?, Option.map_bind, Option.bind_eq_some_iff]
  constructor
  · rintro ⟨m, hm, hn⟩
    obtain ⟨rfl, hfits⟩ := Numeral.map_int64?_eq_some_iff.mp hn
    exact ⟨Numeral.integer?_eq_some_iff.mp hm, hfits⟩
  · rintro ⟨hwrites, hfits⟩
    exact ⟨n, Numeral.integer?_eq_some_iff.mpr hwrites,
      Numeral.map_int64?_eq_some_iff.mpr ⟨rfl, hfits⟩⟩

/-- A segment is the index of an argument if it leads and its integer is not negative. -/
theorem kind_ofText_eq_positional_iff {text : String} {span : Span} {leading : Bool} {i : Nat} :
    (ofText text span leading).kind = .positional i ↔
      leading = true ∧ (integer? text).map Int64.toInt = some (i : Int) := by
  unfold ofText
  cases integer? text with
  | none => simp
  | some n =>
    have hsign : 0 ≤ n ↔ 0 ≤ n.toInt := by
      rw [Int64.le_iff_toInt_le, Int64.toInt_zero]
    rw [Option.map_some, Option.some.injEq]
    dsimp only
    by_cases hlead : (leading && decide (0 ≤ n)) = true
    · obtain ⟨hleading, hn⟩ := Bool.and_eq_true_iff.mp hlead
      have hpos := hsign.mp (of_decide_eq_true hn)
      rw [if_pos hlead, SelectorKind.positional.injEq]
      exact ⟨fun h ↦ ⟨hleading, by omega⟩, fun h ↦ by omega⟩
    · rw [if_neg hlead]
      refine ⟨fun h ↦ SelectorKind.noConfusion h, fun ⟨hleading, hn⟩ ↦ absurd ?_ hlead⟩
      exact Bool.and_eq_true_iff.mpr ⟨hleading, decide_eq_true (hsign.mpr (by omega))⟩

/-- **Integers in paths.** A leading segment that is read again as a list index is the segment that
stands elsewhere, and it denotes the same integer in all three readings: the one that is written
with at most a minus sign and decimal digits, if 64 bits hold it. It is the index of an argument if
it leads and that integer is not negative. -/
theorem ofText_classifies (text : String) (span : Span) :
    (ofText text span true).asIndex = ofText text span false ∧
      (ofText text span true).index? = (ofText text span false).index? ∧
      (ofText text span true).asIndex.index? = (ofText text span false).index? ∧
      (∀ n : Int, (ofText text span false).index?.map Int64.toInt = some n ↔
        Writes text.toList n ∧ Fits n) ∧
      ∀ (leading : Bool) (i : Nat), (ofText text span leading).kind = .positional i ↔
        leading = true ∧ Writes text.toList i ∧ Fits i := by
  refine ⟨asIndex_ofText text span, ?_, ?_, fun n ↦ ?_, fun leading i ↦ ?_⟩
  · rw [index?_ofText, index?_ofText]
  · rw [asIndex_ofText]
  · rw [index?_ofText, map_integer?_eq_some_iff]
  · rw [kind_ofText_eq_positional_iff, map_integer?_eq_some_iff]

/-- A minus sign in front of zero is no obstacle, and neither are more zeros. -/
example : (ofText "-00" ⟨1, 4⟩ true).kind = .positional 0 := by decide

end Selector

end TextTemplate
