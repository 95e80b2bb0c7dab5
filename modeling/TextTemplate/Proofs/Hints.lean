import TextTemplate.Proofs.Numerals
import TextTemplate.Value.Text

/-!
# How a hint is read

A hint is read in the same way for every style: the white space around it goes, its first character
names the style and the others write a width. What a style then does with the width is the only thing
that is left to say about it, so `Value.textWithHint_of_asksFor` is all that the styles need of this
module.

## Trimming

White space around a text is trimmed away whatever the text is, also if the text has white space at
its own ends or is nothing else. No numeral and no letter of a style is white space, so trimming
leaves a hint as it is.
-/

namespace TextTemplate

namespace Unicode

variable {cs before behind : List Char}

theorem trimEnd_append (h : ∀ c ∈ behind, isWhiteSpace c = true) :
    trimEnd (cs ++ behind) = trimEnd cs := by
  have hreverse : ∀ c ∈ behind.reverse, isWhiteSpace c = true :=
    fun c hc ↦ h c (List.mem_reverse.mp hc)
  rw [trimEnd, trimEnd, List.reverse_append, List.dropWhile_append_of_pos hreverse]

theorem dropWhile_isWhiteSpace_eq_nil (h : ∀ c ∈ behind, isWhiteSpace c = true) :
    behind.dropWhile isWhiteSpace = [] := by
  rw [← List.append_nil behind, List.dropWhile_append_of_pos h, List.dropWhile_nil]

theorem trim_append_white (h : ∀ c ∈ behind, isWhiteSpace c = true) :
    trim (cs ++ behind) = trim cs := by
  rw [trim, trim, List.dropWhile_append]
  split
  · rename_i hempty
    rw [List.isEmpty_iff.mp hempty, dropWhile_isWhiteSpace_eq_nil h]
  · exact trimEnd_append h

theorem trim_white_append (h : ∀ c ∈ before, isWhiteSpace c = true) :
    trim (before ++ cs) = trim cs := by
  rw [trim, trim, List.dropWhile_append_of_pos h]

theorem dropWhile_isWhiteSpace_eq_self (h : ∀ c ∈ cs, isWhiteSpace c = false) :
    cs.dropWhile isWhiteSpace = cs := by
  cases cs with
  | nil => rfl
  | cons c cs => rw [List.dropWhile_cons, h c List.mem_cons_self, if_neg Bool.false_ne_true]

theorem trim_eq_self (h : ∀ c ∈ cs, isWhiteSpace c = false) : trim cs = cs := by
  have hreverse : ∀ c ∈ cs.reverse, isWhiteSpace c = false :=
    fun c hc ↦ h c (List.mem_reverse.mp hc)
  rw [trim, dropWhile_isWhiteSpace_eq_self h, trimEnd, dropWhile_isWhiteSpace_eq_self hreverse,
    List.reverse_reverse]

theorem isWhiteSpace_of_isDigit {c : Char} (h : c.isDigit = true) : isWhiteSpace c = false := by
  have hrange : 48 ≤ c.toNat ∧ c.toNat ≤ 57 := by
    simpa [Char.isDigit, UInt32.le_iff_toNat_le] using h
  rw [Bool.eq_false_iff, Ne, isWhiteSpace, inRanges_iff]
  simp only [whiteSpaceRanges, List.mem_cons, List.not_mem_nil, or_false]
  rintro ⟨r, hr, hlo, hhi⟩
  rcases hr with rfl | rfl | rfl | rfl | rfl | rfl | rfl | rfl | rfl | rfl <;> omega

end Unicode

namespace NumberStyle

theorem isWhiteSpace_of_ofChar? {letter : Char} {style : NumberStyle}
    (h : ofChar? letter = some style) : Unicode.isWhiteSpace letter = false := by
  unfold ofChar? at h
  split at h
  all_goals first | decide | exact absurd h nofun

/-! ## Widths -/

/-- The width that the digits of a hint ask for, where a style has a usual one for a hint without
digits. -/
inductive AsksFor (usual : Nat) : List Char → Nat → Prop
  | usual : AsksFor usual [] usual
  | written {digits : List Char} {p : Nat} : Numeral.natural? digits = some p → p < UInt64.size →
      AsksFor usual digits (min p maxPrecision)

variable {usual w : Nat} {digits : List Char}

theorem AsksFor.isDigit (h : AsksFor usual digits w) {c : Char} (hc : c ∈ digits) :
    c.isDigit = true := by
  cases h with
  | usual => exact absurd hc List.not_mem_nil
  | written hp _ => exact Numeral.isDigit_of_natural? hp hc

theorem AsksFor.precision? (h : AsksFor usual digits w) :
    ∃ precision, NumberStyle.precision? digits = some precision ∧ precision.getD usual = w := by
  have hdigit := @AsksFor.isDigit _ _ _ h
  cases h with
  | usual => exact ⟨none, rfl, rfl⟩
  | @written digits p hp hlt =>
    refine ⟨some (min p maxPrecision), ?_, rfl⟩
    have hne : digits.isEmpty = false := by
      rw [List.isEmpty_eq_false_iff]
      rintro rfl
      exact absurd hp nofun
    have hunsigned : Numeral.unsigned? digits = some p := by
      unfold Numeral.unsigned?
      split
      · exact absurd (hdigit List.mem_cons_self) (by decide)
      · exact hp
    rw [NumberStyle.precision?, hne, if_neg Bool.false_ne_true, hunsigned]
    simp only [if_pos hlt]

end NumberStyle

namespace Value

/-- White space around a hint does not count. -/
theorem textWithHint_white (v : Value) (hint : String) {before behind : List Char}
    (hbefore : ∀ c ∈ before, Unicode.isWhiteSpace c = true)
    (hbehind : ∀ c ∈ behind, Unicode.isWhiteSpace c = true) :
    v.textWithHint (String.ofList (before ++ hint.toList ++ behind)) = v.textWithHint hint := by
  rw [textWithHint, String.toList_ofList, Unicode.trim_append_white hbehind,
    Unicode.trim_white_append hbefore, textWithHint]

/-- An integer under a hint of a style has the text of that style in the width that is asked for. -/
theorem textWithHint_of_asksFor {letter : Char} {style : NumberStyle} {usual w : Nat}
    {digits : List Char} {n : Int64} (hstyle : NumberStyle.ofChar? letter = some style)
    (hwidth : NumberStyle.AsksFor usual digits w)
    (husual : style.ofInt none n = style.ofInt (some usual) n) :
    (Value.int n).textWithHint (String.ofList (letter :: digits)) = style.ofInt (some w) n := by
  obtain ⟨precision, hprecision, rfl⟩ := hwidth.precision?
  have htrim : Unicode.trim (letter :: digits) = letter :: digits := by
    apply Unicode.trim_eq_self
    rintro c hc
    rcases List.mem_cons.mp hc with rfl | hc
    · exact NumberStyle.isWhiteSpace_of_ofChar? hstyle
    · exact Unicode.isWhiteSpace_of_isDigit (hwidth.isDigit hc)
  rw [textWithHint, String.toList_ofList, htrim]
  simp only [hstyle, hprecision, textIn]
  cases precision with
  | none => exact husual
  | some p => rfl

end Value

end TextTemplate
