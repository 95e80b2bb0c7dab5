import TextTemplate.Proofs.Hints
import TextTemplate.Proofs.NearestDoubles

/-!
# Integers with fixed decimals

An integer under a hint for fixed decimals is written by way of a double. The double is an integer
again, so its decimals are zeros, and the digits before the point are the double's own, all of them.
What is written is therefore exact for the integers that are doubles, and for no others: beyond 53
bits the digits are those of the nearest double.
-/

namespace TextTemplate

/-! ## An integer with a point -/

namespace Positional

theorem toDigits_mul_pow {n : Nat} (hn : 0 < n) (places : Nat) :
    Nat.toDigits 10 (n * Nat.pow 10 places) =
      Nat.toDigits 10 n ++ List.replicate places '0' := by
  induction places with
  | zero => rw [show n * Nat.pow 10 0 = n from Nat.mul_one n, List.replicate_zero, List.append_nil]
  | succ places ih =>
    have hten : n * Nat.pow 10 (places + 1) = 10 * (n * Nat.pow 10 places) + 0 := by
      rw [Nat.mul_left_comm, Nat.mul_comm 10]
      rfl
    have hpos : 0 < n * Nat.pow 10 places := Nat.mul_pos hn (Nat.pow_pos (by decide))
    rw [hten, ← Nat.toDigits_append_toDigits (by decide) hpos (by decide), ih, Nat.toDigits_zero,
      List.append_assoc, ← List.replicate_succ']

/-- Zero has one digit before the point as well. -/
theorem zeroPadded_mul_pow (n places : Nat) :
    Numeral.zeroPadded (places + 1) (Nat.toDigits 10 (n * Nat.pow 10 places)) =
      Nat.toDigits 10 n ++ List.replicate places '0' := by
  rcases Nat.eq_zero_or_pos n with rfl | hn
  · rw [Nat.zero_mul, Nat.toDigits_zero, Numeral.zeroPadded, ← List.replicate_succ']
    rfl
  · have hlength : 0 < (Nat.toDigits 10 n).length := Nat.length_toDigits_pos
    rw [toDigits_mul_pow hn, Numeral.zeroPadded, List.length_append, List.length_replicate,
      Nat.sub_eq_zero_of_le (by omega), List.replicate_zero, List.nil_append]

/-- A point and so many zeros, if there are any. -/
def zeros (places : Nat) : List Char :=
  if places = 0 then [] else '.' :: List.replicate places '0'

theorem withPoint_mul_pow (n places : Nat) :
    withPoint places (Nat.toDigits 10 (n * Nat.pow 10 places)) =
      Nat.toDigits 10 n ++ zeros places := by
  rw [withPoint, zeros]
  split
  · rename_i hzero
    rw [hzero, List.append_nil]
    exact congrArg (Nat.toDigits 10) (Nat.mul_one n)
  · rw [zeroPadded_mul_pow]
    have hwhole : (Nat.toDigits 10 n).length =
        (Nat.toDigits 10 n ++ List.replicate places '0').length - places := by
      rw [List.length_append, List.length_replicate, Nat.add_sub_cancel]
    simp only [List.take_left' hwhole, List.drop_left' hwhole]

end Positional

/-! ## The double of an integer -/

namespace Binary64

theorem roundDiv_one (n : Nat) : roundDiv n 1 = n := by
  simp [roundDiv, Nat.mod_one]

theorem ofInt_eq (n : Int) :
    ofInt n = .finite (n < 0) (roundDiv n.natAbs (Nat.pow 2 (excess n.natAbs)))
      (excess n.natAbs) := rfl

end Binary64

namespace Fixed

theorem magnitude_of_nat (places m e : Nat) :
    magnitude places m e = Nat.toDigits 10 (m * Nat.pow 2 e) ++ Positional.zeros places := by
  have hratio : Binary64.ratio m e = (m * Nat.pow 2 e, 1) := rfl
  rw [magnitude, hratio]
  simp only [Binary64.roundDiv_one]
  exact Positional.withPoint_mul_pow _ _

/-- An integer with fixed decimals is the double nearest to it, and zeros. -/
theorem text_ofInt (places : Nat) (n : Int) :
    text places (.ofInt n) =
      Numeral.decimal (Binary64.nearest n) ++ String.ofList (Positional.zeros places) := by
  have hmagnitude := magnitude_of_nat places
    (Binary64.roundDiv n.natAbs (Nat.pow 2 (Binary64.excess n.natAbs)))
    (Binary64.excess n.natAbs)
  rw [← Binary64.rounded, ← Binary64.natAbs_nearest] at hmagnitude
  rw [text, Binary64.ofInt_eq, Positional.signed, hmagnitude, ← String.toList_inj,
    String.toList_ofList, String.toList_append, String.toList_ofList, ← List.append_assoc,
    Numeral.decimal]
  congr 1
  simp only [Binary64.nearest_neg_iff, decide_eq_true_eq]
  split
  · rw [String.toList_append, Nat.toList_repr]
    rfl
  · rw [Nat.toList_repr, List.nil_append]

end Fixed

/-! ## Hints for fixed decimals -/

/-- **Integers with fixed decimals.** Under every hint for fixed decimals an integer has the text of
one and the same double, the one it is rounded to, with the decimals that are asked for. That is the
text of the integer itself exactly if the integer is a double. -/
theorem Value.textWithHint_fixed (n : Int64) :
    ∃ m : Int, Binary64.IsNearest n.toInt m ∧
      ∀ letter ∈ ['F', 'f', 'N', 'n'], ∀ digits w, NumberStyle.AsksFor 2 digits w →
        let text := (Value.int n).textWithHint (String.ofList (letter :: digits))
        text = Numeral.decimal m ++ String.ofList (Positional.zeros w) ∧
          (text = Numeral.decimal n.toInt ++ String.ofList (Positional.zeros w) ↔
            Binary64.Holds n.toInt) := by
  have hstyle : ∀ letter ∈ ['F', 'f', 'N', 'n'], NumberStyle.ofChar? letter = some .fixed := by
    simp [NumberStyle.ofChar?]
  refine ⟨Binary64.nearest n.toInt, Binary64.isNearest_nearest _, ?_⟩
  intro letter hletter digits w hw text
  have htext : text = Numeral.decimal (Binary64.nearest n.toInt) ++
      String.ofList (Positional.zeros w) := by
    rw [← Fixed.text_ofInt]
    exact textWithHint_of_asksFor (hstyle letter hletter) hw rfl
  refine ⟨htext, ?_⟩
  rw [htext, String.append_left_inj, Numeral.decimal_inj,
    (Binary64.isNearest_nearest n.toInt).eq_iff]

/-- Some integer beyond 53 bits is a double, and has its own digits under a hint without digits. -/
theorem Value.textWithHint_fixed_evenSample :
    NumberStyle.AsksFor 2 [] 2 ∧ Binary64.Holds (-9007199254740994) ∧
      (Value.int (-9007199254740994)).textWithHint "N" = "-9007199254740994.00" := by
  have hw : NumberStyle.AsksFor 2 [] 2 := .usual
  have hholds : Binary64.Holds (-9007199254740994) := ⟨4503599627370497, 1, by decide, rfl⟩
  obtain ⟨m, -, htext⟩ := textWithHint_fixed (-9007199254740994)
  have hexact := (htext 'N' (by decide) [] 2 hw).2.mpr hholds
  exact ⟨hw, hholds, hexact⟩

/-- The first integer that is no double is written as the even one before it. -/
theorem Value.textWithHint_fixed_oddSample :
    NumberStyle.AsksFor 2 ['2'] 2 ∧
      (Value.int 9007199254740993).textWithHint "F2" = "9007199254740992.00" ∧
      Numeral.decimal 9007199254740993 ++ String.ofList (Positional.zeros 2) =
        "9007199254740993.00" :=
  ⟨.written (p := 2) rfl (by decide), by decide +kernel, by decide +kernel⟩

end TextTemplate
