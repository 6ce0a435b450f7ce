import Mathlib.Algebra.Order.Field.Basic
import Mathlib.Algebra.Order.Ring.Rat
import Mathlib.Tactic.FieldSimp
import Mathlib.Tactic.Linarith
import Mathlib.Tactic.Positivity
import Mathlib.Tactic.Ring
import TradingDesk.Decimal.Arithmetic

/-!
# Values of Decimals

A decimal stands for a rational number, and the order of decimals is the order of the numbers.  Sums
and products are the nearest decimals of as many digits as fit: they miss the exact number by at
most one in the 28th fraction digit or one in 27 significant digits, and sums of numbers up to one
in size are exact.  Rounding to fraction digits moves a number by at most half of the last digit.
-/

namespace TradingDesk

theorem cast_tens (n : Nat) : ((tens n : Nat) : ℚ) = 10 ^ n := by
  simp [tens]

/-! ## Rounded quotients -/

/-- A rounded quotient misses the exact one by at most a half. -/
theorem two_mul_abs_nearestEven_sub_le {n d : Nat} (pos : 0 < d) :
    2 * |(nearestEven n d : ℤ) * d - n| ≤ d := by
  have split := Nat.div_add_mod n d
  have small := Nat.mod_lt n pos
  have whole : (n : ℤ) = d * (n / d : Nat) + (n % d : Nat) := by
    exact_mod_cast split.symm
  simp only [nearestEven]
  generalize n / d = q at *
  generalize n % d = r at *
  rw [whole]
  split
  · rename_i low
    have : (q : ℤ) * d - (d * q + r) = -r := by ring
    rw [this, abs_neg, Nat.abs_cast]
    omega
  · rename_i high
    have : ((q + 1 : Nat) : ℤ) * d - (d * q + r) = (d - r : Nat) := by
      rw [Nat.cast_sub small.le]
      push_cast
      ring
    rw [this, Nat.abs_cast]
    omega

namespace Decimal

variable {a b c d : Decimal}

/-! ## Values -/

/-- A number with the sign that a flag gives it. -/
def withSign (negative : Bool) (x : ℚ) : ℚ :=
  if negative then -x else x

/-- The number that a decimal stands for. -/
def value (d : Decimal) : ℚ :=
  d.signed / 10 ^ d.scale

theorem value_eq_withSign (d : Decimal) :
    d.value = withSign d.negative (d.mantissa / 10 ^ d.scale) := by
  cases negative : d.negative <;> simp [value, signed, withSign, negative, neg_div]

theorem withSign_sub (negative : Bool) (x y : ℚ) :
    withSign negative x - withSign negative y = withSign negative (x - y) := by
  cases negative <;> simp [withSign]
  ring

theorem abs_withSign (negative : Bool) (x : ℚ) : |withSign negative x| = |x| := by
  cases negative <;> simp [withSign]

theorem withSign_mul (m n : Bool) (x y : ℚ) :
    withSign m x * withSign n y = withSign (m != n) (x * y) := by
  cases m <;> cases n <;> simp [withSign]

theorem withSign_div (m n : Bool) (x y : ℚ) :
    withSign m x / withSign n y = withSign (m != n) (x / y) := by
  cases m <;> cases n <;> simp [withSign, neg_div, div_neg]

theorem abs_value (d : Decimal) : |d.value| = d.mantissa / 10 ^ d.scale := by
  rw [value_eq_withSign, abs_withSign, abs_of_nonneg (by positivity)]

/-- A zero needs no sign. -/
theorem withSign_of_zero (negative : Bool) (mantissa scale : Nat) :
    withSign (negative && mantissa != 0) ((mantissa : ℚ) / 10 ^ scale) =
      withSign negative (mantissa / 10 ^ scale) := by
  by_cases empty : mantissa = 0
  · simp [withSign, empty]
  · have kept : (negative && mantissa != 0) = negative := by simp [empty]
    rw [kept]

theorem value_of_make? {negative : Bool} {mantissa scale : Nat}
    (h : make? negative mantissa scale = some d) :
    d.value = withSign negative (mantissa / 10 ^ scale) := by
  obtain ⟨m, s, n⟩ := make?_eq_some h
  rw [value_eq_withSign, m, s, n, withSign_of_zero]

@[simp]
theorem value_zero : zero.value = 0 := by
  simp [value]

theorem value_const {mantissa scale : Nat} (fits : mantissa < limit96) (short : scale ≤ 28) :
    (const mantissa scale).value = mantissa / 10 ^ scale := by
  rw [const_of_lt fits short]
  simp [value, signed]

@[simp]
theorem value_one : one.value = 1 := by
  rw [one, value_const (by decide) (by decide)]
  norm_num

@[simp]
theorem value_neg (d : Decimal) : d.neg.value = -d.value := by
  rw [value, signed_neg, value, Int.cast_neg, neg_div]
  rfl

theorem isZero_iff : d.isZero = true ↔ d.value = 0 := by
  rw [← abs_eq_zero, abs_value]
  simp [isZero]

/-- A number that is not below zero carries a sign only when it is zero. -/
theorem not_negative_of_nonneg (nonneg : 0 ≤ d.value) (nonzero : ¬d.isZero = true) :
    d.negative = false := by
  cases negative : d.negative with
  | false => rfl
  | true =>
    have size : (0 : ℚ) ≤ d.mantissa / 10 ^ d.scale := by positivity
    rw [value_eq_withSign, negative] at nonneg
    simp only [withSign, if_true] at nonneg
    refine absurd (isZero_iff.2 ?_) nonzero
    rw [value_eq_withSign, negative]
    simp only [withSign, if_true]
    linarith

theorem le_iff : a ≤ b ↔ a.value ≤ b.value := by
  rw [le_def, value, value, div_le_div_iff₀ (by positivity) (by positivity)]
  rw [← cast_tens, ← cast_tens]
  exact_mod_cast Iff.rfl

theorem lt_iff : a < b ↔ a.value < b.value := by
  rw [← not_le, le_iff, lt_iff_not_ge]

theorem value_min (a b : Decimal) : (a.min b).value = Min.min a.value b.value := by
  unfold Decimal.min
  split
  · rename_i less
    exact (min_eq_right (lt_iff.1 less).le).symm
  · rename_i more
    exact (min_eq_left (le_of_not_gt (mt lt_iff.2 more))).symm

theorem value_max (a b : Decimal) : (a.max b).value = Max.max a.value b.value := by
  unfold Decimal.max
  split
  · rename_i less
    exact (max_eq_right (lt_iff.1 less).le).symm
  · rename_i more
    exact (max_eq_left (le_of_not_gt (mt lt_iff.2 more))).symm

/-! ## Precision -/

/-- Whether a decimal misses a number by at most one in the 28th fraction digit or by one in 27
significant digits. -/
def Approximates (d : Decimal) (x : ℚ) : Prop :=
  |d.value - x| ≤ Max.max (1 / 10 ^ 28) (|d.value| / 10 ^ 27)

theorem approximates_of_eq {x : ℚ} (h : d.value = x) : d.Approximates x := by
  rw [Approximates, h, sub_self, abs_zero]
  exact le_max_of_le_left (by norm_num)

theorem Approximates.abs_sub_le {x : ℚ} (near : d.Approximates x) (size : |x| ≤ 10 ^ 18) :
    |d.value - x| ≤ 2 / 10 ^ 9 := by
  obtain few | many := le_max_iff.1 near
  · exact few.trans (by norm_num)
  · have triangle : |d.value| ≤ |d.value - x| + |x| := by
      simpa using abs_add_le (d.value - x) x
    linarith

theorem Approximates.abs_sub_le_of_le_one {x : ℚ} (near : d.Approximates x)
    (size : |d.value| ≤ 1) : |d.value - x| ≤ 1 / 10 ^ 27 := by
  refine near.trans (max_le (by norm_num) ?_)
  exact div_le_div_of_nonneg_right size (by norm_num)

/-- A decimal misses the number that it approximates by a part of the number at most. -/
theorem Approximates.abs_sub_le_part {x : ℚ} (near : d.Approximates x) :
    |d.value - x| ≤ 1 / 10 ^ 28 + 2 * |x| / 10 ^ 27 := by
  have size : 0 ≤ |x| := abs_nonneg x
  obtain few | many := le_max_iff.1 near
  · apply few.trans
    have part : 0 ≤ 2 * |x| / 10 ^ 27 := by positivity
    linarith
  · have triangle : |d.value| ≤ |d.value - x| + |x| := by
      simpa using abs_add_le (d.value - x) x
    linarith

/-- A decimal that was rounded off to some digit approximates the number when that digit is the 28th
of the fraction or 27 digits stand before it. -/
theorem approximates_of_half_unit {x : ℚ} {scale : Nat}
    (near : |d.value - x| ≤ 1 / 2 / 10 ^ scale)
    (long : 28 ≤ scale ∨ 10 ^ 27 ≤ |d.value| * 10 ^ scale) : d.Approximates x := by
  have unit : (0 : ℚ) < 10 ^ scale := by positivity
  obtain deep | long := long
  · refine le_max_of_le_left (near.trans ?_)
    have power : (10 : ℚ) ^ 28 ≤ 10 ^ scale := pow_le_pow_right₀ (by norm_num) deep
    rw [div_div, div_le_div_iff₀ (by positivity) (by positivity)]
    linarith
  · refine le_max_of_le_right (near.trans ?_)
    rw [div_div, div_le_div_iff₀ (by positivity) (by positivity)]
    linarith

/-! ## Fitting -/

/-- What fits is rounded off by the fewest digits. -/
theorem fit_eq_some {negative : Bool} {magnitude dropped scale : Nat}
    (h : fit negative magnitude dropped scale = some d) :
    ∃ k, dropped ≤ k ∧ k + d.scale = dropped + scale ∧
      make? negative (nearestEven magnitude (tens k)) d.scale = some d ∧
      (k = dropped ∨ 28 ≤ d.scale ∨ limit96 ≤ nearestEven magnitude (tens (k - 1))) := by
  induction scale generalizing dropped with
  | zero =>
    have scale := (make?_eq_some h).2.1
    refine ⟨dropped, le_refl _, by rw [scale], ?_, .inl rfl⟩
    rw [scale]
    exact h
  | succ scale ih =>
    unfold fit at h
    split at h
    · rename_i made
      cases h
      have scale' := (make?_eq_some made).2.1
      refine ⟨dropped, le_refl _, by rw [scale'], ?_, .inl rfl⟩
      rw [scale']
      exact made
    · rename_i unmade
      obtain ⟨k, more, total, made, fewest⟩ := ih h
      refine ⟨k, by omega, by omega, made, .inr ?_⟩
      obtain rfl | rest := fewest
      · have bounds : ¬(nearestEven magnitude (tens dropped) < limit96 ∧ scale + 1 ≤ 28) := by
          intro fits
          rw [make?, dif_pos fits] at unmade
          cases unmade
        have same : d.scale = scale := by omega
        rw [same, Nat.add_sub_cancel]
        omega
      · exact rest

theorem le_nearestEven_of_le {magnitude k : Nat} (positive : 0 < k)
    (long : limit96 ≤ nearestEven magnitude (tens (k - 1))) :
    10 ^ 27 ≤ nearestEven magnitude (tens k) := by
  obtain ⟨k, rfl⟩ : ∃ j, k = j + 1 := ⟨k - 1, by omega⟩
  rw [Nat.add_sub_cancel] at long
  have above := nearestEven_le_succ magnitude (tens k)
  have below := div_le_nearestEven magnitude (tens (k + 1))
  have tenth : magnitude / tens (k + 1) = magnitude / tens k / 10 := by
    rw [tens_succ, Nat.mul_comm, Nat.div_div_eq_div_mul]
  rw [tenth] at below
  unfold limit96 at long
  omega

/-- Dropping digits to the nearest changes a number by at most half of the last digit kept. -/
theorem abs_withSign_nearestEven_sub_le (negative : Bool) (magnitude k scale : Nat) :
    |withSign negative (nearestEven magnitude (tens k) / 10 ^ scale) -
        withSign negative (magnitude / 10 ^ (k + scale))| ≤ 1 / 2 / 10 ^ scale := by
  have half := two_mul_abs_nearestEven_sub_le (n := magnitude) (tens_pos k)
  have half : 2 * |(nearestEven magnitude (tens k) : ℚ) * 10 ^ k - magnitude| ≤ 10 ^ k := by
    rw [← cast_tens]
    exact_mod_cast half
  have common : (nearestEven magnitude (tens k) : ℚ) / 10 ^ scale - magnitude / 10 ^ (k + scale) =
      (nearestEven magnitude (tens k) * 10 ^ k - magnitude) / 10 ^ (k + scale) := by
    rw [pow_add]
    field_simp
  have digits : (0 : ℚ) < 10 ^ (k + scale) := by positivity
  have unit : (0 : ℚ) < 10 ^ scale := by positivity
  rw [withSign_sub, abs_withSign, common, abs_div, abs_of_pos digits, div_div,
    div_le_div_iff₀ digits (by positivity), pow_add]
  nlinarith

theorem fit_approximates {negative : Bool} {magnitude scale : Nat}
    (h : fit negative magnitude 0 scale = some d) :
    d.Approximates (withSign negative (magnitude / 10 ^ scale)) := by
  obtain ⟨k, -, total, made, fewest⟩ := fit_eq_some h
  have value := value_of_make? made
  rw [Nat.zero_add] at total
  obtain none | some := Nat.eq_zero_or_pos k
  · rw [none, Nat.zero_add] at total
    rw [none, tens_zero, nearestEven_one, total] at value
    exact approximates_of_eq value
  · refine @approximates_of_half_unit d _ d.scale ?_ ?_
    · rw [value, ← total]
      exact abs_withSign_nearestEven_sub_le negative magnitude k d.scale
    · obtain none | deep | long := fewest
      · omega
      · exact .inl deep
      · refine .inr ?_
        rw [abs_value, (make?_eq_some made).1, div_mul_cancel₀ _ (by positivity)]
        exact_mod_cast le_nearestEven_of_le some long

/-- Numbers up to one in size fit as they are. -/
theorem fit_of_le {negative : Bool} {magnitude scale : Nat} (small : magnitude ≤ 10 ^ scale)
    (short : scale ≤ 28) : fit negative magnitude 0 scale = make? negative magnitude scale := by
  have bound : magnitude < limit96 := by
    have power : 10 ^ scale ≤ 10 ^ 28 := Nat.pow_le_pow_right (by decide) short
    unfold limit96
    omega
  have made : make? negative (nearestEven magnitude (tens 0)) scale =
      make? negative magnitude scale := by
    rw [tens_zero, nearestEven_one]
  cases scale with
  | zero => exact made
  | succ scale =>
    unfold fit
    rw [made]
    simp [make?, bound, short]

/-! ## Sums -/

theorem signedAt_div (d : Decimal) {scale : Nat} (deeper : d.scale ≤ scale) :
    (d.signedAt scale : ℚ) / 10 ^ scale = d.value := by
  obtain ⟨more, rfl⟩ := Nat.exists_eq_add_of_le deeper
  rw [signedAt, Nat.add_sub_cancel_left, value, pow_add]
  push_cast
  rw [cast_tens]
  field_simp

/-- A number that is written with its sign apart. -/
theorem withSign_natAbs (total : ℤ) (scale : Nat) :
    withSign (decide (total < 0)) ((total.natAbs : ℚ) / 10 ^ scale) = total / 10 ^ scale := by
  have size : (total.natAbs : ℚ) = |(total : ℚ)| := by
    rw [← Int.cast_abs, Int.abs_eq_natAbs, Int.cast_natCast]
  rw [size]
  by_cases below : total < 0
  · have below' : (total : ℚ) < 0 := by exact_mod_cast below
    simp [withSign, below, abs_of_neg below', neg_div]
  · have above : (0 : ℚ) ≤ total := by exact_mod_cast Int.not_lt.1 below
    simp [withSign, below, abs_of_nonneg above]

/-- A sum of two numbers that are not zero is what fits of the exact total. -/
theorem add?_eq_fit (ha : ¬a.isZero = true) (hb : ¬b.isZero = true) :
    ∃ total : ℤ, ∃ scale ≤ 28, (total : ℚ) / 10 ^ scale = a.value + b.value ∧
      add? a b = fit (decide (total < 0)) total.natAbs 0 scale := by
  refine ⟨a.signedAt (Max.max a.scale b.scale) + b.signedAt (Max.max a.scale b.scale),
    Max.max a.scale b.scale, Nat.max_le.2 ⟨a.scale_le, b.scale_le⟩, ?_, ?_⟩
  · push_cast
    rw [add_div, signedAt_div a (Nat.le_max_left _ _), signedAt_div b (Nat.le_max_right _ _)]
  · rw [add?, if_neg ha, if_neg hb]

theorem add?_approximates (h : add? a b = some c) : c.Approximates (a.value + b.value) := by
  by_cases ha : a.isZero = true
  · rw [add?, if_pos ha] at h
    cases h
    exact approximates_of_eq (by rw [isZero_iff.1 ha, zero_add])
  · by_cases hb : b.isZero = true
    · rw [add?, if_neg ha, if_pos hb] at h
      cases h
      exact approximates_of_eq (by rw [isZero_iff.1 hb, add_zero])
    · obtain ⟨total, scale, -, value, fitted⟩ := add?_eq_fit ha hb
      rw [fitted] at h
      have near := fit_approximates h
      rwa [withSign_natAbs, value] at near

/-- A number of up to one in size has no more digits than its scale. -/
theorem natAbs_le_of_abs_le_one {total : ℤ} {scale : Nat} (small : |(total : ℚ) / 10 ^ scale| ≤ 1) :
    total.natAbs ≤ 10 ^ scale := by
  rw [abs_div, abs_of_pos (by positivity : (0 : ℚ) < 10 ^ scale), div_le_one (by positivity)]
    at small
  have size : ((total.natAbs : ℤ) : ℚ) ≤ 10 ^ scale := by
    rw [Int.natCast_natAbs, Int.cast_abs]
    exact small
  exact_mod_cast size

/-- Sums of up to one in size are exact. -/
theorem value_add? (small : |a.value + b.value| ≤ 1) (h : add? a b = some c) :
    c.value = a.value + b.value := by
  by_cases ha : a.isZero = true
  · rw [add?, if_pos ha] at h
    cases h
    rw [isZero_iff.1 ha, zero_add]
  · by_cases hb : b.isZero = true
    · rw [add?, if_neg ha, if_pos hb] at h
      cases h
      rw [isZero_iff.1 hb, add_zero]
    · obtain ⟨total, scale, short, value, fitted⟩ := add?_eq_fit ha hb
      rw [← value] at small
      rw [fitted, fit_of_le (natAbs_le_of_abs_le_one small) short] at h
      rw [value_of_make? h, withSign_natAbs, value]

theorem value_sub? (small : |a.value - b.value| ≤ 1) (h : sub? a b = some c) :
    c.value = a.value - b.value := by
  by_cases ha : a.isZero = true
  · rw [sub?, if_pos ha] at h
    cases h
    split
    · rename_i hb
      rw [isZero_iff.1 ha, isZero_iff.1 hb, sub_zero]
    · rw [value_neg, isZero_iff.1 ha, zero_sub]
  · by_cases hb : b.isZero = true
    · rw [sub?, if_neg ha, if_pos hb] at h
      cases h
      rw [isZero_iff.1 hb, sub_zero]
    · rw [sub?, if_neg ha, if_neg hb] at h
      rw [value_add? (by rwa [value_neg, ← sub_eq_add_neg]) h, value_neg, ← sub_eq_add_neg]

theorem sub?_approximates (h : sub? a b = some c) : c.Approximates (a.value - b.value) := by
  by_cases ha : a.isZero = true
  · rw [sub?, if_pos ha] at h
    cases h
    apply approximates_of_eq
    split
    · rename_i hb
      rw [isZero_iff.1 ha, isZero_iff.1 hb, sub_zero]
    · rw [value_neg, isZero_iff.1 ha, zero_sub]
  · by_cases hb : b.isZero = true
    · rw [sub?, if_neg ha, if_pos hb] at h
      cases h
      exact approximates_of_eq (by rw [isZero_iff.1 hb, sub_zero])
    · rw [sub?, if_neg ha, if_neg hb] at h
      have near := add?_approximates h
      rwa [value_neg, ← sub_eq_add_neg] at near

/-! ## Products -/

theorem mul?_approximates (h : mul? a b = some c) : c.Approximates (a.value * b.value) := by
  unfold mul? at h
  split at h
  · rename_i empty
    cases h
    refine approximates_of_eq ?_
    obtain ha | hb := Bool.or_eq_true_iff.1 empty
    · rw [isZero_iff.1 ha, zero_mul, value_zero]
    · rw [isZero_iff.1 hb, mul_zero, value_zero]
  · have product : a.value * b.value = withSign (a.negative != b.negative)
        ((a.mantissa * b.mantissa : Nat) / 10 ^ (a.scale + b.scale)) := by
      rw [value_eq_withSign a, value_eq_withSign b, withSign_mul, pow_add]
      push_cast
      rw [div_mul_div_comm]
    dsimp only at h
    split at h
    · rename_i tiny
      cases h
      refine le_max_of_le_left ?_
      have short : a.mantissa * b.mantissa ≤ limit32 * limit32 :=
        Nat.mul_le_mul tiny.1.le tiny.2.1.le
      have short : ((a.mantissa * b.mantissa : Nat) : ℚ) ≤ 10 ^ 20 := by
        refine (Nat.cast_le.2 short).trans ?_
        norm_num [limit32]
      have deep : (10 : ℚ) ^ 48 ≤ 10 ^ (a.scale + b.scale) :=
        pow_le_pow_right₀ (by norm_num) (by omega)
      rw [value_zero, zero_sub, abs_neg, product, abs_withSign, abs_of_nonneg (by positivity)]
      rw [div_le_div_iff₀ (by positivity) (by positivity)]
      linarith
    · rw [product]
      exact fit_approximates h

/-! ## Rounding to fraction digits -/

theorem abs_round_sub_le (d : Decimal) (digits : Nat) :
    |(d.round digits).value - d.value| ≤ 1 / 2 / 10 ^ digits := by
  unfold round
  split
  · rename_i deeper
    have dropped : d.scale = (d.scale - digits) + digits := by omega
    have near := abs_withSign_nearestEven_sub_le d.negative d.mantissa (d.scale - digits) digits
    rw [← dropped, ← value_eq_withSign d] at near
    rw [value_eq_withSign]
    dsimp only
    rw [withSign_of_zero]
    exact near
  · rw [sub_self, abs_zero]
    positivity

theorem round_nonneg (nonneg : 0 ≤ d.value) (digits : Nat) : 0 ≤ (d.round digits).value := by
  unfold round
  split
  · rw [value_eq_withSign]
    dsimp only
    rw [withSign_of_zero]
    by_cases empty : d.isZero = true
    · have none : nearestEven d.mantissa (tens (d.scale - digits)) = 0 := by
        have bound := nearestEven_le d.mantissa (tens (d.scale - digits))
        have zero : d.mantissa = 0 := by simpa [isZero] using empty
        omega
      simp [none, withSign]
    · rw [not_negative_of_nonneg nonneg empty]
      simp only [withSign, Bool.false_eq_true, if_false]
      positivity
  · exact nonneg

end Decimal

end TradingDesk
