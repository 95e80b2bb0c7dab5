import TextTemplate.Proofs.Numerals
import TextTemplate.Settings
import TextTemplate.Template.Basic

/-!
# Names that are numbers

A segment that writes an integer consists of digits and a minus sign. These are lower-case forms of
nothing but themselves, so whether case counts or not, a number is the same name as itself and as no
other.
-/

namespace TextTemplate

namespace Numeral

/-- The characters that an integer is written with. -/
def isNumeric (c : Char) : Bool := c == '-' || c.isDigit

theorem isNumeric_of_natural? {cs : List Char} {n : Nat} (h : natural? cs = some n) :
    ∀ c ∈ cs, isNumeric c = true := by
  intro c hc
  rw [isNumeric, isDigit_of_natural? h hc, Bool.or_true]

theorem isNumeric_of_integer? {cs : List Char} {n : Int} (h : integer? cs = some n) :
    ∀ c ∈ cs, isNumeric c = true := by
  unfold integer? at h
  split at h
  · obtain ⟨m, hm, _⟩ := Option.map_eq_some_iff.mp h
    exact List.forall_mem_cons.mpr ⟨rfl, isNumeric_of_natural? hm⟩
  · obtain ⟨m, hm, _⟩ := Option.map_eq_some_iff.mp h
    exact isNumeric_of_natural? hm

theorem lt_of_isNumeric {c : Char} (h : isNumeric c = true) : c.toNat < 0x3A := by
  rw [isNumeric, Bool.or_eq_true, beq_iff_eq] at h
  rcases h with rfl | h
  · decide
  · rw [Char.isDigit, Bool.and_eq_true, decide_eq_true_eq, decide_eq_true_eq] at h
    exact Nat.lt_succ_of_le (UInt32.le_iff_toNat_le.mp h.2)

end Numeral

namespace Unicode

/-- A numeric character has no other lower-case form, and is that of no other ASCII character. -/
theorem toLower_eq_of_isNumeric {c : Char} (hc : c.toNat < 0x80)
    (h : Numeral.isNumeric c = true ∨ Numeral.isNumeric c.toLower = true) : c.toLower = c := by
  have hall : (List.range 0x80).all (fun n ↦ (Char.ofNat n).toLower == Char.ofNat n ||
      !(Numeral.isNumeric (Char.ofNat n) || Numeral.isNumeric (Char.ofNat n).toLower)) = true := by
    decide +kernel
  have hn := List.all_eq_true.mp hall c.toNat (List.mem_range.mpr hc)
  rw [Char.ofNat_toNat, Bool.or_eq_true, beq_iff_eq, Bool.not_eq_true'] at hn
  rcases hn with hsame | hnone
  · exact hsame
  · rw [← Bool.or_eq_true, hnone] at h
    exact absurd h Bool.false_ne_true

/-- The lower-case forms that runs give lie behind the numeric characters. -/
theorem isNumeric_of_run {r : CaseRun} (hr : r ∈ caseRuns) {n : Nat} (hn : r.contains n = true) :
    Numeral.isNumeric (Char.ofNat (n + r.offset).toNat) = false := by
  have hall : caseRuns.all (fun r ↦ decide (0x3A ≤ (r.first : Int) + r.offset)) = true := by
    decide +kernel
  have hfirst := of_decide_eq_true (List.all_eq_true.mp hall r hr)
  simp only [CaseRun.contains, Bool.and_eq_true, decide_eq_true_eq] at hn
  have hle : 0x3A ≤ (n + r.offset).toNat := by omega
  generalize (n + r.offset).toNat = m at hle
  by_cases hvalid : m.isValidChar
  · have htoNat : (Char.ofNat m).toNat = m := by rw [Char.ofNat, dif_pos hvalid]; rfl
    rw [Bool.eq_false_iff]
    intro hnumeric
    have hlt := Numeral.lt_of_isNumeric hnumeric
    omega
  · rw [Char.ofNat, dif_neg hvalid]
    rfl

/-- What has a numeric character among its lower-case forms is that character. -/
theorem lowerCase_eq_of_mem {c d : Char} (hd : d ∈ lowerCase c)
    (h : Numeral.isNumeric d = true) : lowerCase c = [c] := by
  unfold lowerCase at hd ⊢
  by_cases hascii : c.toNat < 0x80
  · rw [if_pos hascii, List.mem_singleton] at hd
    subst hd
    rw [if_pos hascii, toLower_eq_of_isNumeric hascii (Or.inr h)]
  · rw [if_neg hascii] at hd ⊢
    by_cases hdotted : c = '\u0130'
    · rw [if_pos hdotted] at hd
      have hnone : ['i', '\u0307'].all (!Numeral.isNumeric ·) = true := rfl
      have hfalse := List.all_eq_true.mp hnone d hd
      rw [h] at hfalse
      exact absurd hfalse Bool.false_ne_true
    · rw [if_neg hdotted] at hd ⊢
      cases hrun : caseRuns.find? (CaseRun.contains · c.toNat) with
      | none => rfl
      | some r =>
        rw [hrun, List.mem_singleton] at hd
        have hcontains := List.find?_some (p := fun r : CaseRun ↦ r.contains c.toNat) hrun
        have hnone := isNumeric_of_run (List.mem_of_find?_eq_some hrun) hcontains
        rw [← hd, h] at hnone
        exact absurd hnone Bool.noConfusion

theorem lowerCase_of_isNumeric {c : Char} (h : Numeral.isNumeric c = true) : lowerCase c = [c] := by
  have hascii : c.toNat < 0x80 := Nat.lt_trans (Numeral.lt_of_isNumeric h) (by decide)
  rw [lowerCase, if_pos hascii, toLower_eq_of_isNumeric hascii (Or.inl h)]

theorem lowerCase_ne_nil (c : Char) : lowerCase c ≠ [] := by
  unfold lowerCase
  by_cases hascii : c.toNat < 0x80
  · rw [if_pos hascii]
    exact List.cons_ne_nil _ _
  · rw [if_neg hascii]
    by_cases hdotted : c = '\u0130'
    · rw [if_pos hdotted]
      exact List.cons_ne_nil _ _
    · rw [if_neg hdotted]
      cases caseRuns.find? (CaseRun.contains · c.toNat) with
      | none => exact List.cons_ne_nil _ _
      | some r => exact List.cons_ne_nil _ _

theorem flatMap_lowerCase {cs : List Char} (h : ∀ c ∈ cs, Numeral.isNumeric c = true) :
    cs.flatMap lowerCase = cs := by
  induction cs with
  | nil => rfl
  | cons c cs ih =>
    obtain ⟨hc, hcs⟩ := List.forall_mem_cons.mp h
    rw [List.flatMap_cons, lowerCase_of_isNumeric hc, ih hcs, List.singleton_append]

/-- A text is in lower case already if all that it becomes is numeric. -/
theorem eq_flatMap_lowerCase {cs : List Char}
    (h : ∀ d ∈ cs.flatMap lowerCase, Numeral.isNumeric d = true) : cs.flatMap lowerCase = cs := by
  induction cs with
  | nil => rfl
  | cons c cs ih =>
    rw [List.flatMap_cons] at h ⊢
    obtain ⟨d, hd⟩ := List.exists_mem_of_ne_nil _ (lowerCase_ne_nil c)
    have hc := lowerCase_eq_of_mem hd (h d (List.mem_append_left _ hd))
    rw [hc, ih fun d' hd' ↦ h d' (List.mem_append_right _ hd'), List.singleton_append]

end Unicode

/-- A number is the same name as itself only, whether case counts or not. -/
theorem CaseSensitivity.eq_of_same {text name : String} (case : CaseSensitivity)
    (htext : (Selector.integer? text).isSome = true) (h : case.same text name = true) :
    name = text := by
  cases case with
  | sensitive => exact (eq_of_beq h).symm
  | insensitive =>
    obtain ⟨n, hn⟩ := Option.isSome_iff_exists.mp htext
    obtain ⟨m, hm, _⟩ := Option.bind_eq_some_iff.mp hn
    have hnumeric := Numeral.isNumeric_of_integer? hm
    have hlower : name.toList.flatMap Unicode.lowerCase = text.toList := by
      have hsame : text.toList.flatMap Unicode.lowerCase = name.toList.flatMap Unicode.lowerCase :=
        eq_of_beq h
      rw [← hsame, Unicode.flatMap_lowerCase hnumeric]
    have hname : name.toList.flatMap Unicode.lowerCase = name.toList :=
      Unicode.eq_flatMap_lowerCase (hlower ▸ hnumeric)
    exact String.toList_inj.mp (hname.symm.trans hlower)

end TextTemplate
