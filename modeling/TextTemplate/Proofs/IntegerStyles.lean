import TextTemplate.Proofs.Hints
import TextTemplate.Toml.Text

/-!
# Integers with zeros before them, and in base sixteen

The hints for padded and for hexadecimal integers lose nothing. What they write is read back by the
readers that are there anyway: `Numeral.integer?` for decimal text, with its sign, and
`Toml.hexValue?` for hexadecimal digits in either letter case, which sees a negative integer as its
two's complement.

Both styles write the digits of a natural number and put zeros before them. The width counts digits
only, so the sign of a padded integer comes on top of it, and the least integer needs no care: its
absolute value is a natural number like any other.
-/

namespace TextTemplate

/-! ## Digits behind zeros -/

namespace Numeral

theorem exists_of_mem_toDigits {b n : Nat} (hb : 1 < b) {c : Char} (hc : c ∈ Nat.toDigits b n) :
    ∃ d < b, c = d.digitChar := by
  induction n using Nat.strongRecOn with
  | ind n ih =>
    rw [Nat.toDigits_eq_if hb] at hc
    split at hc
    · rename_i hlt
      exact ⟨n, hlt, List.mem_singleton.mp hc⟩
    · rename_i hge
      rcases List.mem_append.mp hc with hc | hc
      · exact ih (n / b) (Nat.div_lt_self (by omega) hb) hc
      · exact ⟨n % b, Nat.mod_lt n (by omega), List.mem_singleton.mp hc⟩

variable {digits : List Char}

@[simp] theorem length_zeroPadded (width : Nat) (digits : List Char) :
    (zeroPadded width digits).length = max width digits.length := by
  rw [zeroPadded, List.length_append, List.length_replicate]
  omega

theorem map_zeroPadded {f : Char → Char} (h : f '0' = '0') (width : Nat) (digits : List Char) :
    (zeroPadded width digits).map f = zeroPadded width (digits.map f) := by
  rw [zeroPadded, List.map_append, List.map_replicate, h, zeroPadded, List.length_map]

theorem mem_zeroPadded {width : Nat} {c : Char} (hc : c ∈ zeroPadded width digits) :
    c = '0' ∨ c ∈ digits := by
  rcases List.mem_append.mp hc with hc | hc
  · exact Or.inl (List.eq_of_mem_replicate hc)
  · exact Or.inr hc

theorem isDigit_of_mem_zeroPadded {width n : Nat} {c : Char}
    (hc : c ∈ zeroPadded width (Nat.toDigits 10 n)) : c.isDigit = true := by
  rcases mem_zeroPadded hc with rfl | hc
  · decide
  · exact Nat.isDigit_of_mem_toDigits (by decide) (by decide) hc

theorem ofDigitChars_replicate_zero (k : Nat) :
    Nat.ofDigitChars 10 (List.replicate k '0') 0 = 0 := by
  induction k with
  | zero => rfl
  | succ k ih => rw [List.replicate_succ, Nat.ofDigitChars_cons]; exact ih

theorem natural?_zeroPadded (width n : Nat) :
    natural? (zeroPadded width (Nat.toDigits 10 n)) = some n := by
  have hne : zeroPadded width (Nat.toDigits 10 n) ≠ [] :=
    List.append_ne_nil_of_right_ne_nil _ Nat.toDigits_ne_nil
  rw [natural?_of_digits (fun c hc ↦ isDigit_of_mem_zeroPadded hc) hne, zeroPadded,
    Nat.ofDigitChars_append, ofDigitChars_replicate_zero, Nat.ofDigitChars_ten_toDigits]

/-- The two's complement of an integer is its remainder. -/
theorem toNat_toUInt64 (n : Int64) : (n.toUInt64.toNat : Int) = n.toInt % UInt64.size := by
  have hlt : (n.toUInt64.toNat : Int) < UInt64.size := by
    exact_mod_cast n.toUInt64.toNat_lt
  have hbmod : n.toInt = (n.toUInt64.toNat : Int).bmod UInt64.size :=
    n.toBitVec.toInt_eq_toNat_bmod
  rw [hbmod, Int.bmod_emod, Int.emod_eq_of_lt (Int.natCast_nonneg _) hlt]

end Numeral

/-! ## Hexadecimal digits, read -/

namespace Toml

theorem hexValue?_append_singleton (cs : List Char) (c : Char) :
    hexValue? (cs ++ [c]) =
      (hexValue? cs).bind fun n ↦ (hexValue? [c]).map fun d ↦ 16 * n + d := by
  rw [hexValue?, List.foldlM_append]
  congr 1
  funext n
  simp only [hexValue?, List.foldlM_cons, List.foldlM_nil]
  repeat' split
  all_goals simp

theorem hexValue?_zeroPadded (width : Nat) (digits : List Char) :
    hexValue? (Numeral.zeroPadded width digits) = hexValue? digits := by
  rw [Numeral.zeroPadded]
  generalize width - digits.length = k
  induction k with
  | zero => rfl
  | succ k ih =>
    rw [← ih]
    rfl

/-- Digits are read in every spelling that spells each of the sixteen digits. -/
theorem hexValue?_map_toDigits {spell : Char → Char}
    (h : ∀ d < 16, hexValue? [spell d.digitChar] = some d) (n : Nat) :
    hexValue? ((Nat.toDigits 16 n).map spell) = some n := by
  induction n using Nat.strongRecOn with
  | ind n ih =>
    rw [Nat.toDigits_eq_if (by decide)]
    split
    · rename_i hlt
      exact h n hlt
    · rename_i hge
      have hdigit := h (n % 16) (Nat.mod_lt n (by decide))
      rw [List.map_append, List.map_singleton, hexValue?_append_singleton,
        ih (n / 16) (Nat.div_lt_self (by omega) (by decide)), hdigit, Option.bind_some,
        Option.map_some, Nat.div_add_mod]

theorem hexValue?_id_digitChar : ∀ d < 16, hexValue? [id d.digitChar] = some d := by decide

theorem hexValue?_toUpper_digitChar : ∀ d < 16, hexValue? [d.digitChar.toUpper] = some d := by
  decide

end Toml

/-! ## The two styles -/

namespace NumberStyle

/-- A text that is an integer and has so many digits, or more where the integer has more. -/
structure Pads (w : Nat) (n : Int) (text : String) : Prop where
  integer? : Numeral.integer? text.toList = some n
  head?_iff : text.toList.head? = some '-' ↔ n < 0
  countP_isDigit : text.toList.countP Char.isDigit = max w (Nat.toDigits 10 n.natAbs).length

/-- A text that is a natural number in base sixteen and has so many digits, or more where the number
has more. -/
structure PadsHexadecimal (w k : Nat) (text : String) : Prop where
  hexValue? : Toml.hexValue? text.toList = some k
  length : text.toList.length = max w (Nat.toDigits 16 k).length

theorem pads_ofInt (w : Nat) (n : Int64) : Pads w n.toInt (padded.ofInt (some w) n) := by
  have hsign : n < 0 ↔ n.toInt < 0 := by
    rw [Int64.lt_iff_toInt_lt, Int64.toInt_zero]
  have hdigits : ∀ c ∈ Numeral.zeroPadded w (Nat.toDigits 10 n.toInt.natAbs), c.isDigit = true :=
    fun c hc ↦ Numeral.isDigit_of_mem_zeroPadded hc
  have hcount := List.countP_eq_length.mpr hdigits
  have hnatural := Numeral.natural?_zeroPadded w n.toInt.natAbs
  simp only [ofInt, Option.getD_some, hsign]
  by_cases hneg : n.toInt < 0
  · simp only [if_pos hneg]
    refine ⟨?_, ?_, ?_⟩
    · rw [String.toList_ofList, Numeral.integer?, hnatural, Option.map_some, Option.some.injEq]
      omega
    · simp [hneg]
    · rw [String.toList_ofList, List.countP_cons_of_neg (by decide), hcount,
        Numeral.length_zeroPadded]
  · simp only [if_neg hneg]
    refine ⟨?_, ?_, ?_⟩
    · rw [String.toList_ofList, Numeral.integer?_of_digits hdigits, hnatural, Option.map_some,
        Option.some.injEq]
      omega
    · rw [String.toList_ofList]
      refine iff_of_false (fun hhead ↦ ?_) hneg
      exact absurd (hdigits '-' (List.mem_of_mem_head? hhead)) (by decide)
    · rw [String.toList_ofList, hcount, Numeral.length_zeroPadded]

theorem toList_ofInt_hexadecimal (capital : Bool) (w : Nat) (n : Int64) :
    ((hexadecimal capital).ofInt (some w) n).toList =
      Numeral.zeroPadded w
        ((Nat.toDigits 16 n.toUInt64.toNat).map (if capital then Char.toUpper else id)) := by
  cases capital <;> simp [ofInt, Numeral.hexadecimal]

theorem padsHexadecimal_ofInt (capital : Bool) (w : Nat) (n : Int64) :
    PadsHexadecimal w n.toUInt64.toNat ((hexadecimal capital).ofInt (some w) n) := by
  constructor
  · rw [toList_ofInt_hexadecimal, Toml.hexValue?_zeroPadded]
    cases capital with
    | false => exact Toml.hexValue?_map_toDigits Toml.hexValue?_id_digitChar _
    | true => exact Toml.hexValue?_map_toDigits Toml.hexValue?_toUpper_digitChar _
  · rw [toList_ofInt_hexadecimal, Numeral.length_zeroPadded, List.length_map]

theorem map_toUpper_ofInt (w : Nat) (n : Int64) :
    ((hexadecimal false).ofInt (some w) n).toList.map Char.toUpper =
      ((hexadecimal true).ofInt (some w) n).toList := by
  rw [toList_ofInt_hexadecimal, toList_ofInt_hexadecimal, Numeral.map_zeroPadded (by decide),
    List.map_map]
  rfl

/-- The sixteen digits have small letters. -/
theorem map_toLower_ofInt (w : Nat) (n : Int64) :
    ((hexadecimal true).ofInt (some w) n).toList.map Char.toLower =
      ((hexadecimal false).ofInt (some w) n).toList := by
  have hlower : ∀ d < 16, d.digitChar.toUpper.toLower = d.digitChar := by decide
  rw [toList_ofInt_hexadecimal, toList_ofInt_hexadecimal, Numeral.map_zeroPadded (by decide),
    List.map_map]
  congr 1
  refine List.map_congr_left fun c hc ↦ ?_
  obtain ⟨d, hd, rfl⟩ := Numeral.exists_of_mem_toDigits (by decide) hc
  exact hlower d hd

end NumberStyle

/-- **Integers lose nothing.** With zeros before it and in base sixteen, an integer of 64 bits is
written so that it is read back, in exactly the digits that are asked for and that it needs. The two
hexadecimal texts differ in their letter case only, and white space around a hint does not count. -/
theorem Value.textWithHint_lossless (n : Int64) {digits : List Char} {w : Nat}
    (hw : NumberStyle.AsksFor 0 digits w) :
    let text := fun letter ↦ (Value.int n).textWithHint (String.ofList (letter :: digits))
    (∀ letter ∈ ['D', 'd'], NumberStyle.Pads w n.toInt (text letter)) ∧
      (∃ k : Nat, (k : Int) = n.toInt % UInt64.size ∧
        ∀ letter ∈ ['X', 'x'], NumberStyle.PadsHexadecimal w k (text letter)) ∧
      (text 'x').toList.map Char.toUpper = (text 'X').toList ∧
      (text 'X').toList.map Char.toLower = (text 'x').toList ∧
      ∀ (hint : String) (before behind : List Char),
        (∀ c ∈ before, Unicode.isWhiteSpace c = true) →
        (∀ c ∈ behind, Unicode.isWhiteSpace c = true) →
        (Value.int n).textWithHint (String.ofList (before ++ hint.toList ++ behind)) =
          (Value.int n).textWithHint hint := by
  intro text
  have hpadded : ∀ letter ∈ ['D', 'd'], NumberStyle.ofChar? letter = some .padded := by
    simp [NumberStyle.ofChar?]
  have hcapital : text 'X' = (NumberStyle.hexadecimal true).ofInt (some w) n :=
    textWithHint_of_asksFor rfl hw rfl
  have hsmall : text 'x' = (NumberStyle.hexadecimal false).ofInt (some w) n :=
    textWithHint_of_asksFor rfl hw rfl
  refine ⟨?_, ⟨n.toUInt64.toNat, Numeral.toNat_toUInt64 n, ?_⟩, ?_, ?_, ?_⟩
  · intro letter hletter
    have htext : text letter = NumberStyle.padded.ofInt (some w) n :=
      textWithHint_of_asksFor (hpadded letter hletter) hw rfl
    rw [htext]
    exact NumberStyle.pads_ofInt w n
  · rw [List.forall_mem_cons, List.forall_mem_singleton, hcapital, hsmall]
    exact ⟨NumberStyle.padsHexadecimal_ofInt true w n, NumberStyle.padsHexadecimal_ofInt false w n⟩
  · rw [hsmall, hcapital]
    exact NumberStyle.map_toUpper_ofInt w n
  · rw [hsmall, hcapital]
    exact NumberStyle.map_toLower_ofInt w n
  · intro hint before behind hbefore hbehind
    exact textWithHint_white (Value.int n) hint hbefore hbehind

/-- The least integer has nineteen digits, of which a width of twenty asks for one more. -/
theorem Value.textWithHint_lossless_leastSample :
    NumberStyle.AsksFor 0 ['2', '0'] 20 ∧
      NumberStyle.Pads 20 (-9223372036854775808) "-09223372036854775808" ∧
      (Value.int Int64.minValue).textWithHint "\tD20 " = "-09223372036854775808" := by
  have hw : NumberStyle.AsksFor 0 ['2', '0'] 20 := .written (p := 20) rfl (by decide)
  have htext : (Value.int Int64.minValue).textWithHint "D20" = "-09223372036854775808" := by
    decide +kernel
  obtain ⟨hpads, -, -, -, hwhite⟩ := textWithHint_lossless Int64.minValue hw
  have hhint : String.ofList ['D', '2', '0'] = "D20" := rfl
  have hpadded : String.ofList (['\t'] ++ "D20".toList ++ [' ']) = "\tD20 " := rfl
  have hleast := hpads 'D' List.mem_cons_self
  have hsame := hwhite "D20" ['\t'] [' '] (List.forall_mem_singleton.mpr rfl)
    (List.forall_mem_singleton.mpr rfl)
  simp only [hhint, htext] at hleast
  rw [hpadded, htext] at hsame
  exact ⟨hw, hleast, hsame⟩

end TextTemplate
