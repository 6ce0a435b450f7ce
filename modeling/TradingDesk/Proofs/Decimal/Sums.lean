import TradingDesk.Proofs.Decimal.Portion

/-!
# Sums of Amounts

A sum that has too many digits is rounded, but it never falls below an amount that something was
added to, for that amount is a decimal itself and no digit that it needs is dropped in vain.  Taking
less away from an amount than it has leaves something of its sign.
-/

namespace TradingDesk

/-- Rounding a quotient does not fall below a whole number. -/
theorem le_nearestEven_of_mul_le {n d q : ℕ} (pos : 0 < d) (h : q * d ≤ n) : q ≤ nearestEven n d :=
  ((Nat.le_div_iff_mul_le pos).2 h).trans (div_le_nearestEven n d)

namespace Decimal

variable {a b c d : Decimal}

/-- Digits that have to be dropped leave a mantissa that is full but for its last digit. -/
theorem limit96_le_ten_mul {magnitude k : ℕ} (long : limit96 ≤ nearestEven magnitude (tens k)) :
    limit96 ≤ 10 * nearestEven magnitude (tens (k + 1)) := by
  have unit : (0 : ℤ) < tens k := by exact_mod_cast tens_pos k
  have above := two_mul_abs_nearestEven_sub_le (n := magnitude) (tens_pos k)
  have above' := le_abs_self ((nearestEven magnitude (tens k) : ℤ) * tens k - magnitude)
  have below := two_mul_abs_nearestEven_sub_le (n := magnitude) (tens_pos (k + 1))
  have below' := neg_abs_le ((nearestEven magnitude (tens (k + 1)) : ℤ) * tens (k + 1) - magnitude)
  have long' : (limit96 : ℤ) * tens k ≤ nearestEven magnitude (tens k) * tens k :=
    mul_le_mul_of_nonneg_right (by exact_mod_cast long) unit.le
  have ten : (tens (k + 1) : ℤ) = 10 * tens k := by exact_mod_cast tens_succ k
  rw [ten] at below below'
  have count : (2 * limit96 - 11 : ℤ) ≤ 20 * nearestEven magnitude (tens (k + 1)) := by
    apply le_of_mul_le_mul_right _ unit
    linarith
  unfold limit96 at count ⊢
  omega

/-- Rounding an amount to what fits does not fall below a decimal. -/
theorem le_fit {magnitude scale : ℕ} (nonneg : 0 ≤ a.value)
    (le : a.value ≤ magnitude / 10 ^ scale) (h : fit false magnitude 0 scale = some d) :
    a.value ≤ d.value := by
  obtain ⟨k, -, total, made, fewest⟩ := fit_eq_some h
  rw [Nat.zero_add] at total
  have value : d.value = (nearestEven magnitude (tens k) : ℕ) / 10 ^ d.scale := value_of_make? made
  by_cases room : a.scale ≤ d.scale
  · -- the digits that are kept begin with those of the decimal
    obtain ⟨more, same⟩ := Nat.exists_eq_add_of_le room
    have digits : a.mantissa * 10 ^ more * tens k ≤ magnitude := by
      rw [value_of_nonneg nonneg, ← total, div_le_div_iff₀ (by positivity) (by positivity), same,
        pow_add, pow_add] at le
      have unit : (0 : ℚ) < 10 ^ a.scale := by positivity
      have cancelled : (a.mantissa : ℚ) * 10 ^ more * 10 ^ k ≤ magnitude := by
        apply le_of_mul_le_mul_right _ unit
        linarith
      exact_mod_cast cancelled
    have rounded := le_nearestEven_of_mul_le (tens_pos k) digits
    have rounded' : (a.mantissa : ℚ) * 10 ^ more ≤ (nearestEven magnitude (tens k) : ℕ) := by
      exact_mod_cast rounded
    rw [value_of_nonneg nonneg, value, same, div_le_div_iff₀ (by positivity) (by positivity),
      pow_add]
    have unit : (0 : ℚ) < 10 ^ a.scale := by positivity
    nlinarith
  · obtain rfl | positive := Nat.eq_zero_or_pos k
    · rw [tens_zero, nearestEven_one] at value
      rw [Nat.zero_add] at total
      rw [value, total]
      exact le
    · -- no digit of a full mantissa is missing for a number of that size
      have long : limit96 ≤ nearestEven magnitude (tens (k - 1)) := by
        have deep := a.scale_le
        exact (fewest.resolve_left (by omega)).resolve_left (by omega)
      have full := limit96_le_ten_mul long
      rw [Nat.sub_add_cancel positive] at full
      have mantissa : (a.mantissa : ℚ) ≤ 10 * (nearestEven magnitude (tens k) : ℕ) := by
        exact_mod_cast a.mantissa_lt.le.trans full
      have shorter : (10 : ℚ) ^ (d.scale + 1) ≤ 10 ^ a.scale :=
        pow_le_pow_right₀ (by norm_num) (by omega)
      calc a.value = a.mantissa / 10 ^ a.scale := value_of_nonneg nonneg
        _ ≤ a.mantissa / 10 ^ (d.scale + 1) := by gcongr
        _ ≤ 10 * (nearestEven magnitude (tens k) : ℕ) / 10 ^ (d.scale + 1) := by gcongr
        _ = d.value := by
          rw [value, pow_succ, mul_comm, mul_div_mul_right _ _ (by norm_num)]

/-- Adding to an amount does not take away from it. -/
theorem le_add? (ha : 0 ≤ a.value) (hb : 0 ≤ b.value) (h : add? a b = some c) :
    a.value ≤ c.value := by
  by_cases za : a.isZero = true
  · rw [isZero_iff.1 za]
    exact add?_nonneg (add_nonneg ha hb) h
  · by_cases zb : b.isZero = true
    · rw [add?, if_neg za, if_pos zb] at h
      cases h
      exact le_rfl
    · obtain ⟨total, scale, -, value, fitted⟩ := add?_eq_fit za zb
      have above : ¬ total < 0 := by
        intro below
        have negative : (total : ℚ) / 10 ^ scale < 0 :=
          div_neg_of_neg_of_pos (by exact_mod_cast below) (by positivity)
        rw [value] at negative
        linarith
      have size : (total.natAbs : ℚ) / 10 ^ scale = a.value + b.value := by
        have written := withSign_natAbs total scale
        rw [decide_eq_false above, value] at written
        exact written
      rw [fitted, decide_eq_false above] at h
      apply le_fit ha _ h
      rw [size]
      linarith

/-! ## Signs -/

/-- A number other than zero carries a sign exactly when it is below zero. -/
theorem negative_eq_decide (nonzero : ¬ d.isZero = true) : d.negative = decide (d.value < 0) := by
  by_cases below : d.value < 0
  · rw [decide_eq_true below]
    cases negative : d.negative with
    | true => rfl
    | false =>
      have nonneg : 0 ≤ d.value := by
        rw [value_eq_withSign, negative]
        change (0 : ℚ) ≤ d.mantissa / 10 ^ d.scale
        positivity
      exact absurd below (not_lt_of_ge nonneg)
  · rw [decide_eq_false below]
    exact not_negative_of_nonneg (le_of_not_gt below) nonzero

/-- A number decides the sign of its sum with a smaller one. -/
theorem add_neg_iff_of_abs_lt {x y : ℚ} (less : |y| < |x|) : x + y < 0 ↔ x < 0 := by
  have bounds := abs_le.1 less.le
  constructor
  · intro below
    by_contra above
    rw [abs_of_nonneg (le_of_not_gt above)] at bounds
    linarith
  · intro below
    rw [abs_of_neg below] at less
    linarith [le_abs_self y]

/-- An amount that less is taken from or added to keeps its sign. -/
theorem add?_keeps_sign (less : |b.value| < |a.value|) (h : add? a b = some c) :
    ¬ c.isZero = true ∧ c.negative = a.negative := by
  have nonzero : ¬ a.isZero = true := by
    intro zero
    rw [isZero_iff.1 zero, abs_zero] at less
    exact absurd less (not_lt_of_ge (abs_nonneg _))
  by_cases zb : b.isZero = true
  · rw [add?, if_neg nonzero, if_pos zb] at h
    cases h
    exact ⟨nonzero, rfl⟩
  · obtain ⟨total, scale, short, value, fitted⟩ := add?_eq_fit nonzero zb
    rw [fitted] at h
    have sign : total < 0 ↔ a.value < 0 := by
      have unit : (0 : ℚ) < 10 ^ scale := by positivity
      have whole : total < 0 ↔ a.value + b.value < 0 := by
        rw [← value, div_lt_iff₀ unit, zero_mul]
        exact_mod_cast Iff.rfl
      rw [whole]
      exact add_neg_iff_of_abs_lt less
    have some : 0 < total.natAbs := by
      rw [Int.natAbs_pos]
      rintro rfl
      rw [Int.cast_zero, zero_div] at value
      have same : b.value = -a.value := by linarith
      rw [same, abs_neg] at less
      exact lt_irrefl _ less
    have nonzero' : ¬ c.isZero = true := by
      rw [isZero_iff, fit_value_eq_zero_iff h]
      have power : 10 ^ scale ≤ 10 ^ 28 := Nat.pow_le_pow_right (by decide) short
      omega
    obtain ⟨k, -, -, made, -⟩ := fit_eq_some h
    refine ⟨nonzero', ?_⟩
    obtain ⟨mantissa, -, negative⟩ := make?_eq_some made
    rw [negative, ← mantissa, negative_eq_decide nonzero, decide_eq_decide.2 sign]
    have kept : (c.mantissa != 0) = true := by
      rw [bne_iff_ne]
      exact fun zero ↦ nonzero' (beq_iff_eq.2 zero)
    rw [kept, Bool.and_true]

end Decimal

end TradingDesk
