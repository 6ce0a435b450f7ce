import TradingDesk.Proofs.Binary64.Rounding

/-!
# Rounding to the Nearest Number

The digits that a shift drops are remembered in two bits: whether the first of them is set, and
whether any later one is.  They tell a number apart from the middle between two neighbours, and with
them a number is rounded to the nearest one of 53 bits, and from the middle to the even one.

The numbers that round to a given one therefore form an interval around it.  Its ends are the middles
to its neighbours, and they belong to it when its mantissa is even.  Below a power of two the
neighbour is only half as far away.
-/

namespace TradingDesk.Binary64

open Float.Model Float.Model.UnpackedFloat

variable {m n : ℕ} {e k : ℤ} {a q : ℚ} {x : ExtendedMantissa}

/-! ## Digits and the bits behind them -/

/-- What a mantissa and the two bits behind it tell of a number. -/
def Represents (x : ExtendedMantissa) (q : ℚ) : Prop :=
  if x.roundBit then
    if x.stickyBit then x.mantissa + 1 / 2 < q ∧ q < x.mantissa + 1 else q = x.mantissa + 1 / 2
  else
    if x.stickyBit then (x.mantissa : ℚ) < q ∧ q < x.mantissa + 1 / 2 else q = x.mantissa

theorem represents_exact (m : ℕ) :
    Represents (ExtendedMantissa.ofMantissaAndAccuracy m .exact) m :=
  rfl

theorem Represents.bounds (h : Represents x q) : x.mantissa ≤ q ∧ q < x.mantissa + 1 := by
  obtain ⟨mantissa, round, sticky⟩ := x
  cases round <;> cases sticky <;>
    simp only [Represents, Bool.false_eq_true, if_false, if_true] at h <;>
    constructor <;> linarith

theorem Represents.shiftRightOne (h : Represents x q) : Represents x.shiftRightOne (q / 2) := by
  obtain ⟨mantissa, round, sticky⟩ := x
  have split : ((mantissa % 2 : ℕ) : ℚ) + 2 * ((mantissa / 2 : ℕ) : ℚ) = mantissa := by
    exact_mod_cast Nat.mod_add_div mantissa 2
  obtain even | odd := Nat.mod_two_eq_zero_or_one mantissa
  · rw [even, Nat.cast_zero, zero_add] at split
    cases round <;> cases sticky <;>
      simp only [Represents, ExtendedMantissa.shiftRightOne, even, bne_self_eq_false, Bool.or_false,
        Bool.or_true, Bool.or_self, Bool.false_eq_true, if_false, if_true] at h ⊢ <;>
      (try constructor) <;> linarith
  · rw [odd, Nat.cast_one] at split
    cases round <;> cases sticky <;>
      simp only [Represents, ExtendedMantissa.shiftRightOne, odd, Nat.one_ne_zero, bne_iff_ne, ne_eq,
        not_false_eq_true, Bool.or_false, Bool.or_true, Bool.or_self, Bool.false_eq_true, if_false,
        if_true] at h ⊢ <;>
      (try constructor) <;> linarith

/-- A shift to the right loses no information that rounding needs. -/
theorem Represents.shiftRight (h : Represents x q) (n : ℕ) :
    Represents (x >>> n) (q / 2 ^ n) := by
  induction n with
  | zero =>
    rw [pow_zero, div_one]
    exact h
  | succ n ih =>
    rw [pow_succ, ← div_div]
    exact ih.shiftRightOne

/-- The quotient of two whole numbers and the accuracy of its remainder. -/
theorem represents_fraction (pos : 0 < n) : Represents
    (ExtendedMantissa.ofMantissaAndAccuracy (m / n) (accuracyOfFraction (m % n) n)) (m / n) := by
  have divisor : (0 : ℚ) < n := by exact_mod_cast pos
  have split : (m : ℚ) = n * (m / n : ℕ) + (m % n : ℕ) := by
    exact_mod_cast (Nat.div_add_mod m n).symm
  have part : (m : ℚ) / n = (m / n : ℕ) + (m % n : ℕ) / n := by
    rw [split, add_div, mul_div_cancel_left₀ _ divisor.ne']
  have low : ((m % n : ℕ) : ℚ) / n < 1 := by
    rw [div_lt_one divisor]
    exact_mod_cast Nat.mod_lt m pos
  rw [part]
  unfold accuracyOfFraction
  split
  · rename_i whole
    rw [whole, Nat.cast_zero, zero_div, add_zero]
    exact represents_exact _
  · rename_i rest
    have high : 0 < ((m % n : ℕ) : ℚ) / n := by
      have positive : (0 : ℚ) < (m % n : ℕ) := by exact_mod_cast Nat.pos_of_ne_zero rest
      positivity
    have half (r : ℕ) : ((2 * r : ℕ) : ℚ) = 2 * r := by push_cast; ring
    cases order : compare (2 * (m % n)) n with
    | lt =>
      have below : ((2 * (m % n) : ℕ) : ℚ) < n := by exact_mod_cast Nat.compare_eq_lt.1 order
      rw [half] at below
      change ((m / n : ℕ) : ℚ) < _ ∧ _ < ((m / n : ℕ) : ℚ) + 1 / 2
      have short : ((m % n : ℕ) : ℚ) / n < 1 / 2 := by
        rw [div_lt_iff₀ divisor]
        linarith
      constructor <;> linarith
    | eq =>
      have same : ((2 * (m % n) : ℕ) : ℚ) = n := by exact_mod_cast Nat.compare_eq_eq.1 order
      rw [half] at same
      have middle : ((m % n : ℕ) : ℚ) / n = 1 / 2 := by
        rw [div_eq_iff divisor.ne']
        linarith
      rw [middle]
      rfl
    | gt =>
      have above : (n : ℚ) < (2 * (m % n) : ℕ) := by exact_mod_cast Nat.compare_eq_gt.1 order
      rw [half] at above
      change ((m / n : ℕ) : ℚ) + 1 / 2 < _ ∧ _ < ((m / n : ℕ) : ℚ) + 1
      have long : 1 / 2 < ((m % n : ℕ) : ℚ) / n := by
        rw [lt_div_iff₀ divisor]
        linarith
      constructor <;> linarith

/-! ## Rounding -/

/-- Whether a number lies at most half a unit from a whole number, and if that is odd, less. -/
def WithinHalf (n : ℕ) (q : ℚ) : Prop :=
  if Even n then n - 1 / 2 ≤ q ∧ q ≤ n + 1 / 2 else (n : ℚ) - 1 / 2 < q ∧ q < n + 1 / 2

theorem WithinHalf.le (h : WithinHalf n q) : (n : ℚ) - 1 / 2 ≤ q ∧ q ≤ n + 1 / 2 := by
  unfold WithinHalf at h
  split at h
  · exact h
  · exact ⟨h.1.le, h.2.le⟩

/-- Rounding finds the whole number that is at most half a unit away. -/
theorem Represents.roundedMantissa_eq (h : Represents x q) (near : WithinHalf n q) :
    x.roundedMantissa = n := by
  obtain ⟨low, high⟩ := near.le
  obtain ⟨mantissa, round, sticky⟩ := x
  cases round <;> cases sticky <;>
    simp only [Represents, Bool.false_eq_true, if_false, if_true] at h <;>
    simp only [ExtendedMantissa.roundedMantissa, ExtendedMantissa.accuracy,
      Accuracy.roundToNearestEven]
  · have lower : 2 * n ≤ 2 * mantissa + 1 := by
      exact_mod_cast (by linarith : (2 : ℚ) * n ≤ 2 * mantissa + 1)
    have upper : 2 * mantissa ≤ 2 * n + 1 := by
      exact_mod_cast (by linarith : (2 : ℚ) * mantissa ≤ 2 * n + 1)
    omega
  · have lower : n < mantissa + 1 := by
      exact_mod_cast (by linarith : (n : ℚ) < mantissa + 1)
    have upper : 2 * mantissa < 2 * n + 1 := by
      exact_mod_cast (by linarith : (2 : ℚ) * mantissa < 2 * n + 1)
    omega
  · unfold WithinHalf at near
    split at near
    · rename_i even
      have lower : n ≤ mantissa + 1 := by
        exact_mod_cast (by linarith : (n : ℚ) ≤ mantissa + 1)
      have upper : mantissa ≤ n := by
        exact_mod_cast (by linarith : (mantissa : ℚ) ≤ n)
      have parity : n % 2 = 0 := Nat.even_iff.1 even
      omega
    · have lower : n < mantissa + 1 := by
        exact_mod_cast (by linarith [near.1] : (n : ℚ) < mantissa + 1)
      have upper : mantissa < n := by
        exact_mod_cast (by linarith [near.2] : (mantissa : ℚ) < n)
      omega
  · have lower : 2 * n < 2 * mantissa + 3 := by
      exact_mod_cast (by linarith : (2 : ℚ) * n < 2 * mantissa + 3)
    have upper : mantissa < n := by
      exact_mod_cast (by linarith : (mantissa : ℚ) < n)
    omega

/-! ## The numbers that round to one -/

/-- The middle to the next lower neighbour, which below a power of two is half as far away. -/
def lowEnd (m : ℕ) (e : ℤ) : ℚ :=
  (m - if m = 2 ^ 52 ∧ -1074 < e then 1 / 4 else 1 / 2) * 2 ^ e

/-- The middle to the next higher neighbour. -/
def highEnd (m : ℕ) (e : ℤ) : ℚ :=
  (m + 1 / 2) * 2 ^ e

/-- Whether a number rounds to the one of a mantissa and an exponent. -/
def IsNear (m : ℕ) (e : ℤ) (a : ℚ) : Prop :=
  if Even m then lowEnd m e ≤ a ∧ a ≤ highEnd m e else lowEnd m e < a ∧ a < highEnd m e

theorem IsNear.le (h : IsNear m e a) : lowEnd m e ≤ a ∧ a ≤ highEnd m e := by
  unfold IsNear at h
  split at h
  · exact h
  · exact ⟨h.1.le, h.2.le⟩

theorem isNear_of_lt (low : lowEnd m e < a) (high : a < highEnd m e) : IsNear m e a := by
  unfold IsNear
  split
  · exact ⟨low.le, high.le⟩
  · exact ⟨low, high⟩

/-- A number rounds to itself. -/
theorem isNear_self (m : ℕ) (e : ℤ) : IsNear m e (m * 2 ^ e) := by
  have unit : (0 : ℚ) < 2 ^ e := by positivity
  apply isNear_of_lt
  · unfold lowEnd
    gcongr
    split <;> norm_num
  · unfold highEnd
    gcongr
    norm_num

/-- The first shift keeps what the bits behind the mantissa tell. -/
theorem shiftToTargetExponent_represents {accuracy : Accuracy} (ready : e ≤ unitExponent m e)
    (h : Represents (ExtendedMantissa.ofMantissaAndAccuracy m accuracy) (a / 2 ^ e)) :
    ∃ x : ExtendedMantissa, shiftToTargetExponent Format.binary64 m e accuracy =
      (x, unitExponent m e) ∧ Represents x (a / 2 ^ unitExponent m e) := by
  have shifted : shiftToTargetExponent Format.binary64 m e accuracy =
      (ExtendedMantissa.ofMantissaAndAccuracy m accuracy >>> (unitExponent m e - e).toNat,
        e + (unitExponent m e - e).toNat) := rfl
  refine ⟨_, shifted.trans (Prod.ext rfl ?_), ?_⟩
  · change e + ((unitExponent m e - e).toNat : ℤ) = unitExponent m e
    omega
  · rw [← two_pow_mul_unit ready, mul_comm, ← div_div]
    exact h.shiftRight _

theorem half_le_lowEnd (m : ℕ) (e : ℤ) : ((m : ℚ) - 1 / 2) * 2 ^ e ≤ lowEnd m e := by
  unfold lowEnd
  gcongr
  split <;> norm_num

/-- A number near another with a smaller unit lies just below a power of two. -/
theorem half_unit_of_near (canonical : IsCanonical m e) (near : IsNear m e a) (lowest : -1074 ≤ k)
    (small : a < 2 ^ 53 * 2 ^ k) (below : k < e) :
    k = e - 1 ∧ m = 2 ^ 52 ∧ WithinHalf (2 ^ 53) (a / 2 ^ k) := by
  have low := (half_le_lowEnd m e).trans near.le.1
  have unit : (0 : ℚ) < 2 ^ e := by positivity
  have digits : 2 ^ 52 ≤ m := canonical.full.resolve_right (by omega)
  have digits' : (2 : ℚ) ^ 52 ≤ m := by exact_mod_cast digits
  have one_less : k = e - 1 := by
    by_contra far
    have tiny : (2 : ℚ) ^ k ≤ 2 ^ (e - 2) := zpow_le_zpow_right₀ (by norm_num) (by omega)
    rw [zpow_sub₀ (by norm_num)] at tiny
    norm_num at tiny
    linarith [mul_le_mul_of_nonneg_right digits' unit.le]
  have halved : (2 : ℚ) ^ k * 2 = 2 ^ e := by
    rw [← zpow_add_one₀ (by norm_num), one_less]
    congr 1
    omega
  have power : m = 2 ^ 52 := by
    by_contra other
    have more : (2 : ℚ) ^ 52 + 1 ≤ m := by exact_mod_cast digits.lt_of_ne' other
    linarith [mul_le_mul_of_nonneg_right more unit.le]
  refine ⟨one_less, power, ?_⟩
  have quarter : lowEnd m e = (2 ^ 53 - 1 / 2) * 2 ^ k := by
    rw [lowEnd, if_pos ⟨power, by omega⟩, power, ← halved]
    push_cast
    ring
  have low := near.le.1
  have unit' : (0 : ℚ) < 2 ^ k := by positivity
  have even : Even (2 ^ 53) := by decide
  rw [quarter] at low
  rw [WithinHalf, if_pos even, le_div_iff₀ unit', div_le_iff₀ unit']
  push_cast
  constructor <;> linarith

/-- A number near another has the same unit, or one half of it just below a power of two. -/
theorem unit_of_near (canonical : IsCanonical m e) (near : IsNear m e a) (lowest : -1074 ≤ k)
    (small : a < 2 ^ 53 * 2 ^ k) (full : k = -1074 ∨ 2 ^ 52 * 2 ^ k ≤ a) :
    k = e ∧ WithinHalf m (a / 2 ^ k) ∨
      k = e - 1 ∧ m = 2 ^ 52 ∧ WithinHalf (2 ^ 53) (a / 2 ^ k) := by
  have unit : (0 : ℚ) < 2 ^ e := by positivity
  obtain below | rfl | above := lt_trichotomy k e
  · exact .inr (half_unit_of_near canonical near lowest small below)
  · left
    refine ⟨rfl, ?_⟩
    have low := half_le_lowEnd m k
    unfold IsNear at near
    unfold WithinHalf
    rw [highEnd] at near
    rw [le_div_iff₀ unit, div_le_iff₀ unit, lt_div_iff₀ unit, div_lt_iff₀ unit]
    by_cases even : Even m
    · rw [if_pos even] at near ⊢
      exact ⟨low.trans near.1, near.2⟩
    · rw [if_neg even] at near ⊢
      exact ⟨low.trans_lt near.1, near.2⟩
  · exfalso
    have high := near.le.2
    have short : (m : ℚ) + 1 ≤ 2 ^ 53 := by exact_mod_cast canonical.lt
    have le := canonical.le
    have full := full.resolve_left (by omega)
    have doubled : (2 : ℚ) ^ e * 2 ≤ 2 ^ k := by
      rw [← zpow_add_one₀ (by norm_num)]
      exact zpow_le_zpow_right₀ (by norm_num) (by omega)
    rw [highEnd] at high
    linarith [mul_le_mul_of_nonneg_right short unit.le]

/-- A number near another is rounded to it. -/
theorem roundWithAccuracy_near (s : Sign) {accuracy : Accuracy} (pos : 0 < m)
    (canonical : IsCanonical m e) (near : IsNear m e a) (ready : k ≤ unitExponent n k)
    (h : Represents (ExtendedMantissa.ofMantissaAndAccuracy n accuracy) (a / 2 ^ k)) :
    roundWithAccuracy Format.binary64 s n k accuracy = .finite s m e pos := by
  obtain ⟨x, first, exact⟩ := shiftToTargetExponent_represents ready h
  have unit : (0 : ℚ) < 2 ^ k := by positivity
  have digits : n * 2 ^ k ≤ a ∧ a < (n + 1) * 2 ^ k := by
    rw [← le_div_iff₀ unit, ← div_lt_iff₀ unit]
    have bounds := h.bounds
    cases accuracy with
    | exact => exact bounds
    | inexact place => cases place <;> exact bounds
  have lowest : -1074 ≤ unitExponent n k := by
    rw [unitExponent_eq]
    exact le_max_right _ _
  have whole : (unitsOf n k : ℚ) + 1 ≤ 2 ^ 53 := by exact_mod_cast unitsOf_lt n k
  have small : a < 2 ^ 53 * 2 ^ unitExponent n k :=
    (digits.2.trans_le (le_succ_unitsOf ready)).trans_le (by gcongr)
  have full : unitExponent n k = -1074 ∨ 2 ^ 52 * 2 ^ unitExponent n k ≤ a := by
    refine (le_unitsOf ready).symm.imp_right fun many ↦ ?_
    have many : (2 : ℚ) ^ 52 ≤ unitsOf n k := by exact_mod_cast many
    calc (2 : ℚ) ^ 52 * 2 ^ unitExponent n k ≤ unitsOf n k * 2 ^ unitExponent n k := by gcongr
      _ ≤ n * 2 ^ k := unitsOf_le ready
      _ ≤ a := digits.1
  rw [roundWithAccuracy, first]
  dsimp only
  obtain ⟨same, within⟩ | ⟨less, rfl, within⟩ := unit_of_near canonical near lowest small full
  · rw [exact.roundedMantissa_eq within, same, shift_of_fits canonical.lt canonical.le]
    exact dif_neg pos.ne'
  · rw [exact.roundedMantissa_eq within, less, shift_of_carry (by omega), sub_add_cancel]
    exact dif_neg pos.ne'

end TradingDesk.Binary64
