import TextTemplate.Text

/-!
# Integers, written and read

`Numeral.decimal` writes no sign that a reader could refuse and no digit that is not ASCII, so every
reader of integers gives back the number that was written.
-/

namespace TextTemplate.Numeral

theorem isDigit_of_mem_repr {n : Nat} {c : Char} (hc : c ∈ n.repr.toList) : c.isDigit = true := by
  rw [Nat.toList_repr] at hc
  exact Nat.isDigit_of_mem_toDigits (by decide) (by decide) hc

theorem natural?_of_digits {cs : List Char} (h : ∀ c ∈ cs, c.isDigit = true) (hne : cs ≠ []) :
    natural? cs = some (Nat.ofDigitChars 10 cs 0) := by
  rw [natural?, List.all_eq_true.mpr h, List.isEmpty_eq_false_iff.mpr hne]
  rfl

theorem isDigit_of_natural? {cs : List Char} {n : Nat} (h : natural? cs = some n) {c : Char}
    (hc : c ∈ cs) : c.isDigit = true := by
  rw [natural?] at h
  split at h
  · rename_i hall
    exact List.all_eq_true.mp (Bool.and_eq_true_iff.mp hall).2 c hc
  · exact absurd h nofun

theorem natural?_repr (n : Nat) : natural? n.repr.toList = some n := by
  have hne : n.repr.toList ≠ [] := by
    rw [Nat.toList_repr]
    exact Nat.toDigits_ne_nil
  rw [natural?_of_digits (fun c hc ↦ isDigit_of_mem_repr hc) hne, Nat.toList_repr,
    Nat.ofDigitChars_ten_toDigits]

theorem eq_of_toList_repr_eq {n m : Nat} (h : n.repr.toList = m.repr.toList) : n = m := by
  have hn := natural?_repr n
  rw [h, natural?_repr] at hn
  exact (Option.some.inj hn).symm

theorem integer?_of_digits {cs : List Char} (h : ∀ c ∈ cs, c.isDigit = true) :
    integer? cs = (natural? cs).map fun n : Nat ↦ (n : Int) := by
  unfold integer?
  split
  · exact absurd (h _ List.mem_cons_self) (by decide)
  · rfl

theorem signed?_of_ne_plus {cs : List Char} (h : ∀ ds, cs ≠ '+' :: ds) :
    signed? cs = integer? cs := by
  unfold signed?
  split
  · exact absurd rfl (h _)
  · rfl

/-- The characters of a written integer are digits, but for a minus sign. -/
theorem mem_decimal {n : Int} {c : Char} (hc : c ∈ (decimal n).toList) :
    c = '-' ∨ c.isDigit = true := by
  unfold decimal at hc
  split at hc
  · rw [String.toList_append, List.mem_append] at hc
    rcases hc with hc | hc
    · exact Or.inl (List.mem_singleton.mp hc)
    · exact Or.inr (isDigit_of_mem_repr hc)
  · exact Or.inr (isDigit_of_mem_repr hc)

theorem integer?_decimal (n : Int) : integer? (decimal n).toList = some n := by
  unfold decimal
  split
  · rename_i hneg
    have htext : ("-" ++ n.natAbs.repr).toList = '-' :: n.natAbs.repr.toList := by
      rw [String.toList_append]
      rfl
    rw [htext, integer?, natural?_repr, Option.map_some, Option.some.injEq]
    omega
  · rename_i hneg
    rw [integer?_of_digits fun c hc ↦ isDigit_of_mem_repr hc, natural?_repr, Option.map_some,
      Option.some.injEq]
    omega

theorem decimal_inj {n m : Int} : decimal n = decimal m ↔ n = m := by
  constructor
  · intro h
    have hn := integer?_decimal n
    rw [h, integer?_decimal] at hn
    exact (Option.some.inj hn).symm
  · exact congrArg decimal

theorem signed?_decimal (n : Int) : signed? (decimal n).toList = some n := by
  rw [signed?_of_ne_plus, integer?_decimal]
  intro ds hds
  have hplus : '+' ∈ (decimal n).toList := by
    rw [hds]
    exact List.mem_cons_self
  rcases mem_decimal hplus with h | h <;> exact absurd h (by decide)

theorem int32?_toInt (n : Int32) : int32? n.toInt = some n := by
  rw [int32?, if_pos ⟨n.minValue_le_toInt, n.toInt_le⟩, Int32.ofInt_toInt]

end TextTemplate.Numeral
