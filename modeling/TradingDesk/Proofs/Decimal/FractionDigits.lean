import TradingDesk.Proofs.Decimal.Portion

/-!
# Rounding to Fraction Digits

A number has so many fraction digits when it is a whole number of units of the last of them.
Rounding a decimal to fraction digits gives such a number, and does not pass another one, so a bound
that has the digits itself survives the rounding.  Any other bound can be missed by half a unit.
What comes out depends on the amount alone, and not on how many digits it is written with.

An amount that is not negative is rounded to zero exactly when it is at most half a unit, since the
tie goes to zero.
-/

namespace TradingDesk.Decimal

variable {d : Decimal} {digits : ℕ} {x y : ℚ}

/-- Whether a number is a whole number of units of a fraction digit. -/
def HasDigits (digits : ℕ) (x : ℚ) : Prop :=
  ∃ n : ℤ, x = n / 10 ^ digits

theorem hasDigits_value (short : d.scale ≤ digits) : HasDigits digits d.value := by
  refine ⟨d.signed * 10 ^ (digits - d.scale), ?_⟩
  rw [value, div_eq_div_iff (by positivity) (by positivity)]
  push_cast
  rw [mul_assoc, ← pow_add, Nat.sub_add_cancel short]

theorem hasDigits_round (d : Decimal) (digits : ℕ) : HasDigits digits (d.round digits).value :=
  hasDigits_value (scale_round_le d digits)

/-- Less than a unit does not lead from one number with the digits to a larger one. -/
theorem HasDigits.le_of_lt_add (hx : HasDigits digits x) (hy : HasDigits digits y)
    (near : x < y + 1 / 10 ^ digits) : x ≤ y := by
  obtain ⟨m, rfl⟩ := hx
  obtain ⟨n, rfl⟩ := hy
  rw [← add_div, div_lt_div_iff_of_pos_right (by positivity)] at near
  have whole : m < n + 1 := by exact_mod_cast near
  apply div_le_div_of_nonneg_right _ (by positivity)
  exact_mod_cast Int.lt_add_one_iff.1 whole

/-! ## Bounds with the digits -/

theorem half_unit_lt_unit (digits : ℕ) : (1 : ℚ) / 2 / 10 ^ digits < 1 / 10 ^ digits := by
  have unit : (0 : ℚ) < 1 / 10 ^ digits := by positivity
  have half : (1 : ℚ) / 2 / 10 ^ digits = 1 / 10 ^ digits / 2 := by ring
  rw [half]
  exact half_lt_self unit

theorem round_le_of_le (has : HasDigits digits x) (le : d.value ≤ x) :
    (d.round digits).value ≤ x := by
  apply (hasDigits_round d digits).le_of_lt_add has
  have near := (abs_le.1 (abs_round_sub_le d digits)).2
  linarith [half_unit_lt_unit digits]

theorem le_round_of_le (has : HasDigits digits x) (le : x ≤ d.value) :
    x ≤ (d.round digits).value := by
  apply has.le_of_lt_add (hasDigits_round d digits)
  have near := (abs_le.1 (abs_round_sub_le d digits)).1
  linarith [half_unit_lt_unit digits]

/-- A decimal that has the digits is not changed. -/
theorem value_round_of_hasDigits (has : HasDigits digits d.value) :
    (d.round digits).value = d.value :=
  le_antisymm (round_le_of_le has le_rfl) (le_round_of_le has le_rfl)

/-! ## Amounts that are written differently -/

theorem nearestEven_mul_right {n k factor : ℕ} (positive : 0 < factor) :
    nearestEven (n * factor) (k * factor) = nearestEven n k := by
  unfold nearestEven
  rw [Nat.mul_div_mul_right _ _ positive, Nat.mul_mod_mul_right]
  have less (r : ℕ) : 2 * (r * factor) < k * factor ↔ 2 * r < k := by
    rw [← Nat.mul_assoc]
    exact Nat.mul_lt_mul_right positive
  have same (r : ℕ) : 2 * (r * factor) = k * factor ↔ 2 * r = k := by
    rw [← Nat.mul_assoc]
    exact Nat.mul_left_inj positive.ne'
  simp only [less, same]

/-- Two ways to write an amount have the digits of the longer one. -/
theorem mantissa_of_value_eq {a b : Decimal} (nonneg : 0 ≤ a.value) (same : a.value = b.value)
    (shorter : a.scale ≤ b.scale) : b.mantissa = a.mantissa * 10 ^ (b.scale - a.scale) := by
  have nonneg' : 0 ≤ b.value := same ▸ nonneg
  rw [value_of_nonneg nonneg, value_of_nonneg nonneg',
    div_eq_div_iff (by positivity) (by positivity)] at same
  have power : 10 ^ b.scale = 10 ^ (b.scale - a.scale) * 10 ^ a.scale := by
    rw [← pow_add, Nat.sub_add_cancel shorter]
  have same : a.mantissa * 10 ^ b.scale = b.mantissa * 10 ^ a.scale := by exact_mod_cast same
  rw [power, ← Nat.mul_assoc] at same
  exact (Nat.eq_of_mul_eq_mul_right (by positivity) same).symm

/-- Rounding depends on the amount and not on how it is written. -/
theorem value_round_congr {a b : Decimal} (nonneg : 0 ≤ a.value) (same : a.value = b.value) :
    (a.round digits).value = (b.round digits).value := by
  wlog shorter : a.scale ≤ b.scale generalizing a b
  · exact (this (same ▸ nonneg) same.symm (Nat.le_of_not_le shorter)).symm
  by_cases deeper : digits < a.scale
  · have deeper' : digits < b.scale := by omega
    have mantissa : (a.round digits).mantissa = (b.round digits).mantissa := by
      rw [round, dif_pos deeper, round, dif_pos deeper']
      change nearestEven a.mantissa (tens _) = nearestEven b.mantissa (tens _)
      have power : tens (b.scale - digits) =
          tens (a.scale - digits) * 10 ^ (b.scale - a.scale) := by
        change 10 ^ (b.scale - digits) = 10 ^ (a.scale - digits) * 10 ^ (b.scale - a.scale)
        rw [← pow_add]
        congr 1
        omega
      rw [mantissa_of_value_eq nonneg same shorter, power,
        nearestEven_mul_right (by positivity)]
    have scale : (a.round digits).scale = (b.round digits).scale := by
      rw [round, dif_pos deeper, round, dif_pos deeper']
    rw [value_of_nonneg (round_nonneg nonneg digits),
      value_of_nonneg (round_nonneg (same ▸ nonneg) digits), mantissa, scale]
  · have has := hasDigits_value (Nat.le_of_not_lt deeper)
    rw [value_round_of_hasDigits has, value_round_of_hasDigits (same ▸ has), same]

/-- One times an amount is that amount, however the one is written. -/
theorem value_mul?_of_one {a b c : Decimal} (nonneg : 0 ≤ a.value) (one : b.value = 1)
    (h : mul? a b = some c) : c.value = a.value := by
  have hb : 0 ≤ b.value := by
    rw [one]
    exact zero_le_one
  obtain zero | fitted := mul?_cases nonneg hb h
  · have tiny := (mul?_value_eq_zero_iff nonneg hb h).1 zero
    have none : HasDigits 28 0 := ⟨0, by simp⟩
    rw [zero]
    apply le_antisymm nonneg
    apply (hasDigits_value a.scale_le).le_of_lt_add none
    rw [one] at tiny
    linarith
  · have deep := scale_le_of_fit (mantissa_le_of_share hb one.le) fitted
    obtain ⟨k, -, total, made, -⟩ := fit_eq_some fitted
    have unit : b.mantissa = 10 ^ b.scale := by
      rw [value_of_nonneg hb, div_eq_one_iff_eq (by positivity)] at one
      exact_mod_cast one
    have digits : a.mantissa * b.mantissa =
        a.mantissa * 10 ^ (c.scale - a.scale) * tens k := by
      change _ = a.mantissa * 10 ^ (c.scale - a.scale) * 10 ^ k
      rw [unit, Nat.mul_assoc, ← pow_add]
      congr 2
      omega
    have kept := nearestEven_mul_right (n := a.mantissa * 10 ^ (c.scale - a.scale)) (k := 1)
      (tens_pos k)
    rw [Nat.one_mul, nearestEven_one, ← digits] at kept
    rw [kept] at made
    rw [value_of_make? made, value_of_nonneg nonneg]
    change ((a.mantissa * 10 ^ (c.scale - a.scale) : ℕ) : ℚ) / 10 ^ c.scale = _
    rw [div_eq_div_iff (by positivity) (by positivity)]
    push_cast
    rw [mul_assoc, ← pow_add, Nat.sub_add_cancel deep]

/-! ## Amounts that vanish -/

/-- An amount of up to half a unit is rounded to zero, and no other one is. -/
theorem value_round_eq_zero_iff (nonneg : 0 ≤ d.value) :
    (d.round digits).value = 0 ↔ d.value ≤ 1 / 2 / 10 ^ digits := by
  by_cases deeper : digits < d.scale
  · have mantissa : (d.round digits).value = 0 ↔ 2 * d.mantissa ≤ tens (d.scale - digits) := by
      rw [← nearestEven_eq_zero_iff (tens_pos _), ← isZero_iff, round, dif_pos deeper]
      simp [isZero]
    have power : (10 : ℚ) ^ d.scale = 10 ^ (d.scale - digits) * 10 ^ digits := by
      rw [← pow_add, Nat.sub_add_cancel deeper.le]
    rw [mantissa, value_of_nonneg nonneg, power, ← div_div,
      div_le_div_iff_of_pos_right (by positivity), div_le_div_iff₀ (by positivity) (by norm_num),
      one_mul, mul_comm, ← cast_tens]
    exact_mod_cast Iff.rfl
  · have has := hasDigits_value (Nat.le_of_not_lt deeper)
    rw [value_round_of_hasDigits has]
    constructor
    · intro zero
      rw [zero]
      positivity
    · intro small
      have zero : HasDigits digits 0 := ⟨0, by simp⟩
      apply le_antisymm _ nonneg
      apply has.le_of_lt_add zero
      linarith [half_unit_lt_unit digits]

/-- An amount is at most doubled. -/
theorem round_le_two_mul (nonneg : 0 ≤ d.value) : (d.round digits).value ≤ 2 * d.value := by
  by_cases small : d.value ≤ 1 / 2 / 10 ^ digits
  · rw [(value_round_eq_zero_iff nonneg).2 small]
    linarith
  · have near := (abs_le.1 (abs_round_sub_le d digits)).2
    linarith

theorem zero_lt_round_iff (nonneg : 0 ≤ d.value) :
    zero < d.round digits ↔ 1 / 2 / 10 ^ digits < d.value := by
  rw [lt_iff, value_zero, (round_nonneg nonneg digits).lt_iff_ne', Ne,
    value_round_eq_zero_iff nonneg]
  exact lt_iff_not_ge.symm

end TradingDesk.Decimal
