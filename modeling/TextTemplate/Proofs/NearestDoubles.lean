import TextTemplate.Number

/-!
# The double nearest to an integer

`Binary64.ofInt` rounds an integer to a double. Which one that is can be said without the rounding:
no double is nearer, and where another one is as near, the mantissa is even.

The doubles around an integer are the multiples of one power of two, its *step*, as long as they are
not smaller than the least integer with as many bits. A smaller double need not be such a multiple,
but then that least integer is one, and it is nearer. So it is enough that `Binary64.roundDiv` is
nearest among the multiples of the step.
-/

namespace TextTemplate.Binary64

/-! ## Which integers are doubles -/

/-- A magnitude that has a mantissa below a bound. -/
def HasMantissaBelow (bound magnitude : Nat) : Prop :=
  ∃ mantissa exponent, mantissa < bound ∧ magnitude = mantissa * Nat.pow 2 exponent

/-- An integer that is a double: 53 bits are enough for a mantissa of it. The greatest exponent is
far beyond the 64-bit integers, so no bound on exponents is needed. -/
def Holds (n : Int) : Prop := HasMantissaBelow (2 * hiddenBit) n.natAbs

/-- A double whose mantissa is even, so that one bit less is enough. -/
def HoldsEvenly (n : Int) : Prop := HasMantissaBelow hiddenBit n.natAbs

/-- The double that an integer is rounded to. -/
structure IsNearest (n m : Int) : Prop where
  holds : Holds m
  natAbs_le : ∀ x, Holds x → (m - n).natAbs ≤ (x - n).natAbs
  even_of_tie : ∀ x, Holds x → (x - n).natAbs = (m - n).natAbs → x ≠ m → HoldsEvenly m

/-- The integers that are doubles are rounded to themselves, and no others are. -/
theorem IsNearest.eq_iff {n m : Int} (h : IsNearest n m) : m = n ↔ Holds n := by
  constructor
  · rintro rfl
    exact h.holds
  · intro hn
    have hle := h.natAbs_le n hn
    omega

theorem step_pos (e : Nat) : 0 < Nat.pow 2 e := Nat.two_pow_pos e

/-- Half of a mantissa goes with the next exponent. -/
theorem two_mul_mul_step (k e : Nat) : 2 * k * Nat.pow 2 e = k * Nat.pow 2 (e + 1) := by
  rw [Nat.mul_comm 2 k, Nat.mul_assoc, Nat.mul_comm 2]
  rfl

theorem hasMantissaBelow_of_le {k half : Nat} (hpos : 0 < half) (hk : k ≤ 2 * half) (e : Nat) :
    HasMantissaBelow (2 * half) (k * Nat.pow 2 e) := by
  rcases Nat.lt_or_eq_of_le hk with hlt | rfl
  · exact ⟨k, e, hlt, rfl⟩
  · exact ⟨half, e + 1, by omega, two_mul_mul_step half e⟩

theorem hasMantissaBelow_of_even {k half : Nat} (hpos : 0 < half) (hk : k ≤ 2 * (2 * half))
    (heven : k % 2 = 0) (e : Nat) : HasMantissaBelow (2 * half) (k * Nat.pow 2 e) := by
  rw [← Nat.mul_div_cancel' (Nat.dvd_of_mod_eq_zero heven), two_mul_mul_step]
  exact hasMantissaBelow_of_le hpos (by omega) (e + 1)

theorem hasMantissaBelow_zero {bound : Nat} (h : 0 < bound) : HasMantissaBelow bound 0 :=
  ⟨0, 0, h, rfl⟩

/-- A double is a multiple of a power of two, or else it has fewer bits than a mantissa at that
power. -/
theorem HasMantissaBelow.exists_eq_mul_or_lt {half x : Nat} (h : HasMantissaBelow (2 * half) x)
    (e : Nat) : (∃ k, x = k * Nat.pow 2 e) ∨ (0 < e ∧ x < half * Nat.pow 2 e) := by
  obtain ⟨a, f, ha, rfl⟩ := h
  rcases Nat.lt_or_ge f e with hlt | hge
  · right
    refine ⟨by omega, ?_⟩
    calc a * Nat.pow 2 f < 2 * half * Nat.pow 2 f := Nat.mul_lt_mul_of_pos_right ha (step_pos f)
      _ = half * Nat.pow 2 (f + 1) := two_mul_mul_step half f
      _ ≤ half * Nat.pow 2 e := Nat.mul_le_mul_left half (Nat.pow_le_pow_right Nat.two_pos hlt)
  · left
    refine ⟨a * Nat.pow 2 (f - e), ?_⟩
    rw [Nat.mul_assoc]
    exact congrArg (a * ·) ((Nat.pow_sub_mul_pow 2 hge).symm)

/-! ## Rounding to a multiple -/

section

variable {n d k : Nat}

/-- Rounding goes down from the lower half of a step and up from the upper half; from the middle it
goes to the even side. -/
theorem roundDiv_cases (n d : Nat) :
    (roundDiv n d = n / d ∧ 2 * (n % d) ≤ d ∧ (2 * (n % d) = d → n / d % 2 = 0)) ∨
      (roundDiv n d = n / d + 1 ∧ d ≤ 2 * (n % d) ∧ (2 * (n % d) = d → n / d % 2 = 1)) := by
  simp only [roundDiv, Bool.or_eq_true, Bool.and_eq_true, decide_eq_true_eq, beq_iff_eq]
  split
  · rename_i hup
    exact Or.inr ⟨rfl, by omega, by omega⟩
  · rename_i hdown
    exact Or.inl ⟨rfl, by omega, by omega⟩

theorem natAbs_roundDiv_sub_le (hd : 0 < d) :
    2 * ((roundDiv n d * d : Nat) - (n : Int)).natAbs ≤ d := by
  have hn := Nat.div_add_mod' n d
  have hlt := Nat.mod_lt n hd
  rcases roundDiv_cases n d with ⟨hq, hr, -⟩ | ⟨hq, hr, -⟩
  · rw [hq]
    omega
  · rw [hq, Nat.add_one_mul (n / d) d]
    omega

theorem roundDiv_even_of_half (hd : 0 < d)
    (h : 2 * ((roundDiv n d * d : Nat) - (n : Int)).natAbs = d) : roundDiv n d % 2 = 0 := by
  have hn := Nat.div_add_mod' n d
  have hlt := Nat.mod_lt n hd
  rcases roundDiv_cases n d with ⟨hq, hr, heven⟩ | ⟨hq, hr, hodd⟩
  · rw [hq] at h ⊢
    exact heven (by omega)
  · rw [hq, Nat.add_one_mul (n / d) d] at h
    have := hodd (by omega)
    omega

/-- Two multiples of a step lie at least a step apart. -/
theorem le_natAbs_mul_sub_mul {j : Nat} (h : k ≠ j) :
    d ≤ ((k * d : Nat) - ((j * d : Nat) : Int)).natAbs := by
  rcases Nat.lt_or_gt_of_ne h with hlt | hgt
  · have hle := Nat.mul_le_mul_right d hlt
    rw [Nat.succ_mul] at hle
    omega
  · have hle := Nat.mul_le_mul_right d hgt
    rw [Nat.succ_mul] at hle
    omega

theorem natAbs_roundDiv_sub_le_of_mul (hd : 0 < d) (k : Nat) :
    ((roundDiv n d * d : Nat) - (n : Int)).natAbs ≤ ((k * d : Nat) - (n : Int)).natAbs := by
  by_cases hk : k = roundDiv n d
  · subst hk
    exact Nat.le_refl _
  · have hhalf := natAbs_roundDiv_sub_le (n := n) hd
    have hapart := le_natAbs_mul_sub_mul (d := d) hk
    omega

theorem roundDiv_even_of_tie (hd : 0 < d) (hk : k ≠ roundDiv n d)
    (h : ((k * d : Nat) - (n : Int)).natAbs = ((roundDiv n d * d : Nat) - (n : Int)).natAbs) :
    roundDiv n d % 2 = 0 := by
  have hhalf := natAbs_roundDiv_sub_le (n := n) hd
  have hapart := le_natAbs_mul_sub_mul (d := d) hk
  exact roundDiv_even_of_half hd (by omega)

end

/-! ## The step of an integer -/

section

variable {n x : Nat}

/-- The exponent of the step: how many bits an integer has beyond those of a mantissa. -/
def excess (n : Nat) : Nat := n.log2 - 52

/-- The magnitude that a magnitude is rounded to. -/
def rounded (n : Nat) : Nat := roundDiv n (Nat.pow 2 (excess n)) * Nat.pow 2 (excess n)

theorem lt_mul_step (n : Nat) : n < 2 * hiddenBit * Nat.pow 2 (excess n) := by
  calc n < Nat.pow 2 (n.log2 + 1) := Nat.lt_log2_self
    _ ≤ Nat.pow 2 (53 + excess n) :=
      Nat.pow_le_pow_right Nat.two_pos (by rw [excess]; omega)
    _ = 2 * hiddenBit * Nat.pow 2 (excess n) := Nat.pow_add 2 53 (excess n)

theorem mul_step_le (h : 0 < excess n) : hiddenBit * Nat.pow 2 (excess n) ≤ n := by
  have hn : n ≠ 0 := by
    rintro rfl
    exact absurd h (by decide)
  calc hiddenBit * Nat.pow 2 (excess n) = Nat.pow 2 (52 + excess n) :=
      (Nat.pow_add 2 52 (excess n)).symm
    _ ≤ Nat.pow 2 n.log2 := Nat.pow_le_pow_right Nat.two_pos (by rw [excess] at h ⊢; omega)
    _ ≤ n := Nat.log2_self_le hn

theorem roundDiv_step_le (n : Nat) : roundDiv n (Nat.pow 2 (excess n)) ≤ 2 * hiddenBit := by
  have hdiv : n / Nat.pow 2 (excess n) < 2 * hiddenBit :=
    (Nat.div_lt_iff_lt_mul (step_pos _)).mpr (lt_mul_step n)
  rcases roundDiv_cases n (Nat.pow 2 (excess n)) with ⟨hq, -, -⟩ | ⟨hq, -, -⟩ <;> omega

/-- Every double has a multiple of the step that is no farther, and only itself is as near. -/
theorem HasMantissaBelow.exists_mul_step (h : HasMantissaBelow (2 * hiddenBit) x) (n : Nat) :
    ∃ k, ((k * Nat.pow 2 (excess n) : Nat) - (n : Int)).natAbs ≤ ((x : Int) - n).natAbs ∧
      (((k * Nat.pow 2 (excess n) : Nat) - (n : Int)).natAbs = ((x : Int) - n).natAbs →
        x = k * Nat.pow 2 (excess n)) := by
  rcases h.exists_eq_mul_or_lt (excess n) with ⟨k, rfl⟩ | ⟨hpos, hlt⟩
  · exact ⟨k, Nat.le_refl _, fun _ ↦ rfl⟩
  · have hle := mul_step_le hpos
    exact ⟨hiddenBit, by omega, by omega⟩

theorem hasMantissaBelow_rounded (n : Nat) : HasMantissaBelow (2 * hiddenBit) (rounded n) :=
  hasMantissaBelow_of_le (by decide) (roundDiv_step_le n) (excess n)

theorem natAbs_rounded_sub_le (h : HasMantissaBelow (2 * hiddenBit) x) :
    ((rounded n : Int) - n).natAbs ≤ ((x : Int) - n).natAbs := by
  obtain ⟨k, hle, -⟩ := h.exists_mul_step n
  exact Nat.le_trans (natAbs_roundDiv_sub_le_of_mul (step_pos _) k) hle

theorem rounded_even_of_tie (h : HasMantissaBelow (2 * hiddenBit) x)
    (htie : ((x : Int) - n).natAbs = ((rounded n : Int) - n).natAbs) (hne : x ≠ rounded n) :
    HasMantissaBelow hiddenBit (rounded n) := by
  obtain ⟨k, hle, hx⟩ := h.exists_mul_step n
  have hnearest := natAbs_roundDiv_sub_le_of_mul (n := n) (step_pos (excess n)) k
  have hk : x = k * Nat.pow 2 (excess n) :=
    hx (Nat.le_antisymm hle (htie ▸ hnearest))
  have hkne : k ≠ roundDiv n (Nat.pow 2 (excess n)) := by
    rintro rfl
    exact hne hk
  have heven : roundDiv n (Nat.pow 2 (excess n)) % 2 = 0 :=
    roundDiv_even_of_tie (step_pos _) hkne (hk ▸ htie)
  have hpos : 0 < hiddenBit / 2 := by decide
  exact hasMantissaBelow_of_even hpos (roundDiv_step_le n) heven (excess n)

theorem rounded_pos (h : 0 < n) : 0 < rounded n := by
  have hstep : Nat.pow 2 (excess n) ≤ n :=
    Nat.le_trans (Nat.pow_le_pow_right Nat.two_pos (Nat.sub_le _ _)) (Nat.log2_self_le (by omega))
  have hdiv : 0 < n / Nat.pow 2 (excess n) := Nat.div_pos hstep (step_pos _)
  refine Nat.mul_pos ?_ (step_pos _)
  rcases roundDiv_cases n (Nat.pow 2 (excess n)) with ⟨hq, -, -⟩ | ⟨hq, -, -⟩ <;> omega

end

/-! ## Both signs -/

/-- The double that an integer is rounded to. -/
def nearest (n : Int) : Int := if n < 0 then -(rounded n.natAbs : Int) else rounded n.natAbs

theorem natAbs_nearest (n : Int) : (nearest n).natAbs = rounded n.natAbs := by
  unfold nearest
  split <;> omega

theorem natAbs_nearest_sub (n : Int) :
    (nearest n - n).natAbs = ((rounded n.natAbs : Int) - n.natAbs).natAbs := by
  unfold nearest
  split <;> omega

theorem nearest_neg_iff (n : Int) : nearest n < 0 ↔ n < 0 := by
  unfold nearest
  split
  · have := rounded_pos (n := n.natAbs) (by omega)
    omega
  · omega

/-- Either a number is on the same side of zero, or zero is nearer. -/
theorem natAbs_sub_cases (x n : Int) :
    (x - n).natAbs = ((x.natAbs : Int) - n.natAbs).natAbs ∧
        (x ≠ nearest n → x.natAbs ≠ rounded n.natAbs) ∨
      (((0 : Nat) : Int) - n.natAbs).natAbs < (x - n).natAbs := by
  have hpos : 0 < n.natAbs → 0 < rounded n.natAbs := rounded_pos
  unfold nearest
  split <;> omega

theorem isNearest_nearest (n : Int) : IsNearest n (nearest n) where
  holds := by
    rw [Holds, natAbs_nearest]
    exact hasMantissaBelow_rounded _
  natAbs_le x hx := by
    have hzero := natAbs_rounded_sub_le (n := n.natAbs) (hasMantissaBelow_zero (by decide))
    rw [natAbs_nearest_sub]
    rcases natAbs_sub_cases x n with ⟨hsame, -⟩ | hother
    · rw [hsame]
      exact natAbs_rounded_sub_le hx
    · omega
  even_of_tie x hx heq hne := by
    have hzero := natAbs_rounded_sub_le (n := n.natAbs) (hasMantissaBelow_zero (by decide))
    rw [natAbs_nearest_sub] at heq
    rw [HoldsEvenly, natAbs_nearest]
    rcases natAbs_sub_cases x n with ⟨hsame, hne'⟩ | hother
    · exact rounded_even_of_tie hx (hsame ▸ heq) (hne' hne)
    · omega

end TextTemplate.Binary64
