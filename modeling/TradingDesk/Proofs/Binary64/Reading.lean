import TradingDesk.Binary64.Reading
import TradingDesk.Proofs.Binary64.Nearest
import TradingDesk.Proofs.Binary64.Parts

/-!
# Decimal Literals

A decimal literal is read as the number that it rounds to.  A short literal is computed from a whole
number and a power of ten that are both exact, so that one product or quotient is all that is rounded;
a longer one is computed from its digits with as many bits as rounding needs.
-/

namespace TradingDesk.Binary64

open Float.Model Float.Model.UnpackedFloat

variable {m n p : ℕ} {e k l : ℤ} {a : ℚ} {x : Float}

/-! ## Operations that round once -/

/-- A mantissa with enough bits reaches its unit. -/
theorem le_unitExponent (digits : 2 ^ 52 ≤ n) : k ≤ unitExponent n k := by
  have bits : 52 ≤ n.log2 := (Nat.le_log2 (by omega)).2 digits
  rw [unitExponent_eq]
  omega

/-- Every mantissa represents what it stands for. -/
theorem represents_value (n : ℕ) (k : ℤ) :
    Represents (ExtendedMantissa.ofMantissaAndAccuracy n .exact) (n * 2 ^ k / 2 ^ k) := by
  rw [mul_div_cancel_right₀ _ (by positivity)]
  exact represents_exact n

theorem round_near (pos : 0 < m) (canonical : IsCanonical m e) (positive : 0 < n)
    (near : IsNear m e (n * 2 ^ k)) :
    UnpackedFloat.round Format.binary64 .positive n k = .finite .positive m e pos := by
  have lowered : UnpackedFloat.round Format.binary64 .positive n k =
      roundWithAccuracy Format.binary64 .positive (decreaseExponent n k (unitExponent n k)).1
        (decreaseExponent n k (unitExponent n k)).2 .exact := rfl
  rw [← decreaseExponent_value n k (unitExponent n k)] at near
  rw [lowered]
  refine roundWithAccuracy_near .positive pos canonical near ?_ (represents_value _ _)
  simp only [decreaseExponent]
  rw [unitExponent_eq, unitExponent_eq, log2_shiftLeft positive]
  omega

theorem mul_near (pos : 0 < m) (canonical : IsCanonical m e) {hn : 0 < n} {hp : 0 < p}
    (digits : 2 ^ 52 ≤ n * p) (near : IsNear m e (n * 2 ^ k * (p * 2 ^ l))) :
    UnpackedFloat.mul Format.binary64 (.finite .positive n k hn) (.finite .positive p l hp) =
      .finite .positive m e pos := by
  have product : (n : ℚ) * 2 ^ k * (p * 2 ^ l) = (n * p : ℕ) * 2 ^ (k + l) := by
    rw [zpow_add₀ (by norm_num)]
    push_cast
    ring
  rw [product] at near
  exact roundWithAccuracy_near .positive pos canonical near (le_unitExponent digits)
    (represents_value _ _)

theorem div_near (pos : 0 < m) (canonical : IsCanonical m e) {hn : 0 < n} {hp : 0 < p}
    (near : IsNear m e (n * 2 ^ k / (p * 2 ^ l))) :
    UnpackedFloat.div Format.binary64 (.finite .positive n k hn) (.finite .positive p l hp) =
      .finite .positive m e pos := by
  have developed : UnpackedFloat.div Format.binary64 (.finite .positive n k hn)
      (.finite .positive p l hp) =
        roundWithAccuracy Format.binary64 .positive
          (n * 2 ^ (k - l - quotientExponent n k p l).toNat / p) (quotientExponent n k p l)
          (accuracyOfFraction (n * 2 ^ (k - l - quotientExponent n k p l).toNat % p) p) := by
    rw [← Nat.shiftLeft_eq]
    rfl
  have ready : quotientExponent n k p l ≤ k - l := by
    rw [quotientExponent_eq]
    omega
  rw [developed]
  refine roundWithAccuracy_near .positive pos canonical near (quotientExponent_le hn hp) ?_
  have exact : (n : ℚ) * 2 ^ k / (p * 2 ^ l) / 2 ^ quotientExponent n k p l =
      (n * 2 ^ (k - l - quotientExponent n k p l).toNat : ℕ) / p := by
    push_cast
    rw [← zpow_natCast, Int.toNat_of_nonneg (by omega), zpow_sub₀ (by norm_num),
      zpow_sub₀ (by norm_num)]
    field_simp
  rw [exact]
  exact represents_fraction hp

/-! ## Exact operands -/

/-- Whether a number is a whole one exactly and has all its bits. -/
def isExactly (n : ℕ) : UnpackedFloat → Bool
  | .finite .positive m e _ => decide (2 ^ 52 ≤ m ∧ m * 2 ^ e.toNat = n * 2 ^ (-e).toNat)
  | _ => false

theorem parts_of_isExactly {u : UnpackedFloat} (h : isExactly n u = true) :
    ∃ m e pos, u = .finite .positive m e pos ∧ 2 ^ 52 ≤ m ∧ (m : ℚ) * 2 ^ e = n := by
  unfold isExactly at h
  split at h
  · rename_i m e pos
    obtain ⟨digits, value⟩ := of_decide_eq_true h
    refine ⟨m, e, pos, rfl, digits, ?_⟩
    have value' : (m : ℚ) * 2 ^ e.toNat = n * 2 ^ (-e).toNat := by exact_mod_cast value
    have split : (2 : ℚ) ^ e * 2 ^ (-e).toNat = 2 ^ e.toNat := by
      rw [← zpow_natCast, ← zpow_natCast, ← zpow_add₀ (by norm_num)]
      congr 1
      omega
    have unit : (0 : ℚ) < 2 ^ (-e).toNat := by positivity
    rw [← mul_left_inj' unit.ne', mul_assoc, split, value']
  · cases h

/-- The powers of ten up to the 22nd are exact. -/
theorem isExactly_powerOfTen : ∀ i : Fin 23, isExactly (10 ^ i.val)
    (Float.exactlyRepresentablePowersOfTen[i]).toModel.unpack = true := by
  decide +kernel

/-- Whole numbers of 53 bits are exact. -/
theorem unpack_whole (positive : 0 < n) (small : n < 2 ^ 53) :
    ∃ m e pos, n.toUInt64.toFloat.toModel.unpack = .finite .positive m e pos ∧ 2 ^ 52 ≤ m ∧
      (m : ℚ) * 2 ^ e = n := by
  have bits : n.log2 < 53 := (Nat.log2_lt positive.ne').2 small
  have low := Nat.log2_self_le positive.ne'
  have high := @Nat.lt_log2_self n
  have digits : 2 ^ 52 ≤ n * 2 ^ (52 - n.log2) := by
    calc 2 ^ 52 = 2 ^ n.log2 * 2 ^ (52 - n.log2) := by
          rw [← pow_add]
          congr 1
          omega
      _ ≤ n * 2 ^ (52 - n.log2) := by gcongr
  have fits : n * 2 ^ (52 - n.log2) < 2 ^ 53 := by
    calc n * 2 ^ (52 - n.log2) < 2 ^ (n.log2 + 1) * 2 ^ (52 - n.log2) := by gcongr
      _ = 2 ^ 53 := by
          rw [← pow_add]
          congr 1
          omega
  have value : ((n * 2 ^ (52 - n.log2) : ℕ) : ℚ) * 2 ^ ((n.log2 : ℤ) - 52) = n := by
    push_cast
    rw [← zpow_natCast, mul_assoc, ← zpow_add₀ (by norm_num)]
    have zero : ((52 - n.log2 : ℕ) : ℤ) + ((n.log2 : ℤ) - 52) = 0 := by omega
    rw [zero, zpow_zero, mul_one]
  have canonical : IsCanonical (n * 2 ^ (52 - n.log2)) ((n.log2 : ℤ) - 52) :=
    ⟨fits, by omega, Or.inl digits⟩
  have pos : 0 < n * 2 ^ (52 - n.log2) := by positivity
  refine ⟨_, _, pos, ?_, digits, value⟩
  have near : IsNear (n * 2 ^ (52 - n.log2)) ((n.log2 : ℤ) - 52) (n * 2 ^ (0 : ℤ)) := by
    have near := isNear_self (n * 2 ^ (52 - n.log2)) ((n.log2 : ℤ) - 52)
    rwa [value, ← mul_one (n : ℚ), ← zpow_zero (2 : ℚ)] at near
  rw [unpack_toFloat positive (by omega), round_near pos canonical positive near,
    unpack_pack_finite pos canonical (by omega)]

/-! ## Literals -/

/-- A literal that is not short is computed from its digits. -/
theorem ofScientific_of_long {negated : Bool} (long : ¬(n < 2 ^ 53 ∧ p ≤ 22)) :
    (Float.ofScientific n negated p).toModel.unpack =
      (Float.Model.pack (UnpackedFloat.ofScientific Format.binary64 n
        (if negated then -(p : ℤ) else p))).unpack := by
  rw [Float.ofScientific, dif_neg long]
  cases negated with
  | true =>
    have opposite : Int.negOfNat p = -(p : ℤ) := Int.negOfNat_eq
    rw [if_pos rfl, if_pos rfl, ← opposite]
    rfl
  | false => rfl

/-- A whole number divided by a power of ten. -/
theorem ofScientific_neg (positive : 0 < n) (places : 0 < p) (room : p ≤ 2048 + n.log2) :
    UnpackedFloat.ofScientific Format.binary64 n (-(p : ℤ)) =
      UnpackedFloat.div Format.binary64 (.finite .positive n 0 positive)
        (.finite .positive (10 ^ p) 0 (by positivity)) := by
  have above : ¬ -(p : ℤ) > 2 ^ Format.binary64.exponentBits := by
    change ¬ -(p : ℤ) > 2048
    omega
  have below : ¬ -(p : ℤ) < -((2 ^ Format.binary64.exponentBits : ℤ) + n.log2) := by
    change ¬ -(p : ℤ) < -(2048 + (n.log2 : ℤ))
    omega
  have negated : (- -(p : ℤ)).toNat = p := by omega
  unfold UnpackedFloat.ofScientific
  rw [dif_neg positive.ne', if_neg above, if_neg below, if_neg (by omega)]
  simp only [negated]

/-- A literal near a number is read as the number, when its exponent is not negative. -/
theorem ofScientific_near_mul (pos : 0 < m) (canonical : IsCanonical m e) (fits : e ≤ 971)
    (positive : 0 < n) (room : p ≤ 2048) (near : IsNear m e (n * 10 ^ p)) :
    (Float.ofScientific n false p).toModel.unpack = .finite .positive m e pos := by
  by_cases short : n < 2 ^ 53 ∧ p ≤ 22
  · obtain ⟨m₁, e₁, pos₁, whole, digits₁, value₁⟩ := unpack_whole positive short.1
    obtain ⟨m₂, e₂, pos₂, power, digits₂, value₂⟩ :=
      parts_of_isExactly (isExactly_powerOfTen ⟨p, by omega⟩)
    have product : Float.ofScientific n false p = n.toUInt64.toFloat *
        Float.exactlyRepresentablePowersOfTen[(⟨p, by omega⟩ : Fin 23)] := by
      rw [Float.ofScientific, dif_pos short, if_neg (by decide)]
      rfl
    have digits : 2 ^ 52 ≤ m₁ * m₂ := by nlinarith
    push_cast at value₂
    rw [← value₁, ← value₂] at near
    rw [product, unpack_mul, whole, power, mul_near pos canonical digits near,
      unpack_pack_finite pos canonical fits]
  · have digits : 2 ^ 52 ≤ n <<< 53 * 10 ^ p := by
      have tens : 1 ≤ 10 ^ p := Nat.one_le_pow _ _ (by decide)
      rw [Nat.shiftLeft_eq]
      nlinarith
    have value : (n : ℚ) * (10 : ℚ) ^ p = (n <<< 53 * 10 ^ p : ℕ) * 2 ^ (-53 + 0 : ℤ) := by
      rw [Nat.shiftLeft_eq, add_zero, show (2 : ℚ) ^ (-53 : ℤ) = 1 / 2 ^ 53 by norm_num]
      push_cast
      ring
    rw [value] at near
    have rounded := roundWithAccuracy_near .positive pos canonical near (le_unitExponent digits)
      (represents_value _ _)
    rw [ofScientific_of_long short, if_neg (by decide), ofScientific_eq positive room, rounded,
      unpack_pack_finite pos canonical fits]

/-- A literal near a number is read as the number, when its exponent is negative. -/
theorem ofScientific_near_div (pos : 0 < m) (canonical : IsCanonical m e) (fits : e ≤ 971)
    (positive : 0 < n) (places : 0 < p) (room : p ≤ 2048 + n.log2)
    (near : IsNear m e (n / 10 ^ p)) :
    (Float.ofScientific n true p).toModel.unpack = .finite .positive m e pos := by
  by_cases short : n < 2 ^ 53 ∧ p ≤ 22
  · obtain ⟨m₁, e₁, pos₁, whole, digits₁, value₁⟩ := unpack_whole positive short.1
    obtain ⟨m₂, e₂, pos₂, power, digits₂, value₂⟩ :=
      parts_of_isExactly (isExactly_powerOfTen ⟨p, by omega⟩)
    have quotient : Float.ofScientific n true p = n.toUInt64.toFloat /
        Float.exactlyRepresentablePowersOfTen[(⟨p, by omega⟩ : Fin 23)] := by
      rw [Float.ofScientific, dif_pos short, if_pos rfl]
      rfl
    push_cast at value₂
    rw [← value₁, ← value₂] at near
    rw [quotient]
    change (Float.Model.pack (UnpackedFloat.div Format.binary64 _ _)).unpack = _
    rw [whole, power, div_near pos canonical near, unpack_pack_finite pos canonical fits]
  · have value : (n : ℚ) / (10 : ℚ) ^ p =
        n * 2 ^ (0 : ℤ) / ((10 ^ p : ℕ) * 2 ^ (0 : ℤ)) := by
      push_cast
      norm_num
    rw [value] at near
    rw [ofScientific_of_long short, if_pos rfl, ofScientific_neg positive places room,
      div_near pos canonical near, unpack_pack_finite pos canonical fits]

/-! ## The range of literals -/

/-- Numbers that round to a finite one lie between powers of ten. -/
theorem near_bounds (pos : 0 < m) (canonical : IsCanonical m e) (fits : e ≤ 971)
    (near : IsNear m e a) : (10 : ℚ) ^ (-324 : ℤ) < a ∧ a < 10 ^ (309 : ℤ) := by
  obtain ⟨low, high⟩ := near.le
  have whole : (1 : ℚ) ≤ m := by exact_mod_cast pos
  have digits : (m : ℚ) + 1 ≤ 2 ^ 53 := by exact_mod_cast canonical.lt
  constructor
  · have tiny : (2 : ℚ) * 2 ^ 1074 < 10 ^ 324 := by
      exact_mod_cast (by decide +kernel : 2 * 2 ^ 1074 < 10 ^ 324)
    calc (10 : ℚ) ^ (-324 : ℤ) < 1 / 2 * 2 ^ (-1074 : ℤ) := by
          rw [zpow_neg, zpow_neg, ← one_div, ← one_div, one_div_mul_one_div]
          exact one_div_lt_one_div_of_lt (by positivity) tiny
      _ ≤ 1 / 2 * 2 ^ e := by
          gcongr
          · norm_num
          · exact canonical.le
      _ ≤ lowEnd m e := by
          unfold lowEnd
          gcongr
          split <;> linarith
      _ ≤ a := low
  · have huge : (2 : ℚ) ^ 53 * 2 ^ 971 < 10 ^ 309 := by
      exact_mod_cast (by decide +kernel : 2 ^ 53 * 2 ^ 971 < 10 ^ 309)
    calc a ≤ highEnd m e := high
      _ ≤ 2 ^ 53 * 2 ^ e := by
          unfold highEnd
          gcongr
          linarith
      _ ≤ 2 ^ 53 * 2 ^ (971 : ℤ) := by
          gcongr
          norm_num
      _ < 10 ^ (309 : ℤ) := huge

/-- The count of the digits of a whole number gives its power of ten. -/
theorem tens_bounds (positive : 0 < n) :
    (10 : ℚ) ^ ((Nat.toDigits 10 n).length - 1 : ℤ) ≤ n ∧
      (n : ℚ) < 10 ^ ((Nat.toDigits 10 n).length : ℤ) := by
  have some : 0 < (Nat.toDigits 10 n).length := Nat.length_toDigits_pos
  generalize size : (Nat.toDigits 10 n).length = length at *
  constructor
  · obtain rfl | more := Nat.eq_or_lt_of_le (Nat.succ_le_of_lt some)
    · norm_num
      exact positive
    · have long : 10 ^ (length - 1) ≤ n := by
        by_contra less
        have short := (Nat.length_toDigits_le_iff (b := 10) (by decide)
          (by omega : 0 < length - 1)).2 (Nat.lt_of_not_le less)
        omega
      have exponent : (length : ℤ) - 1 = (length - 1 : ℕ) := by omega
      rw [exponent, zpow_natCast]
      exact_mod_cast long
  · have short : n < 10 ^ length :=
      (Nat.length_toDigits_le_iff (b := 10) (by decide) some).1 size.le
    rw [zpow_natCast]
    exact_mod_cast short

/-- The digits and the exponent of a literal within a range of powers of ten. -/
theorem exponent_bounds (positive : 0 < n) (low : (10 : ℚ) ^ (-324 : ℤ) < n * 10 ^ k)
    (high : (n : ℚ) * 10 ^ k < 10 ^ (309 : ℤ)) :
    -324 < (Nat.toDigits 10 n).length + k ∧ (Nat.toDigits 10 n).length + k < 310 := by
  obtain ⟨least, most⟩ := tens_bounds positive
  have unit : (0 : ℚ) < 10 ^ k := by positivity
  constructor
  · have more : (10 : ℚ) ^ (-324 : ℤ) < 10 ^ ((Nat.toDigits 10 n).length + k) := by
      rw [zpow_add₀ (by norm_num)]
      exact low.trans (mul_lt_mul_of_pos_right most unit)
    exact (zpow_lt_zpow_iff_right₀ (by norm_num)).1 more
  · have less : (10 : ℚ) ^ ((Nat.toDigits 10 n).length - 1 + k) < 10 ^ (309 : ℤ) := by
      rw [zpow_add₀ (by norm_num)]
      exact (mul_le_mul_of_nonneg_right least unit.le).trans_lt high
    have bound := (zpow_lt_zpow_iff_right₀ (by norm_num)).1 less
    omega

/-- A literal near a number is read as the number. -/
theorem ofDecimal_near {pos : 0 < m} (unpacked : x.toModel.unpack = .finite .positive m e pos)
    (positive : 0 < n) (near : IsNear m e (n * 10 ^ k)) (negative : Bool) :
    ofDecimal negative n k = if negative then -x else x := by
  obtain ⟨canonical, fits⟩ := canonical_of_unpack unpacked
  obtain ⟨low, high⟩ := near_bounds pos canonical fits near
  obtain ⟨lower, upper⟩ := exponent_bounds positive low high
  have bits : (Nat.toDigits 10 n).length ≤ n.log2 + 1 := by
    rw [Nat.length_toDigits_le_iff (by decide) (Nat.succ_pos _)]
    exact Nat.lt_log2_self.trans_le (Nat.pow_le_pow_left (by decide) _)
  have some : 0 < (Nat.toDigits 10 n).length := Nat.length_toDigits_pos
  generalize size : (Nat.toDigits 10 n).length = length at *
  have read : (if 0 ≤ k then Float.ofScientific n false k.toNat
      else Float.ofScientific n true (-k).toNat) = x := by
    apply eq_of_unpack
    rw [unpacked]
    split
    · rename_i above
      have power : (10 : ℚ) ^ k = 10 ^ k.toNat := by
        rw [← zpow_natCast, Int.toNat_of_nonneg above]
      rw [power] at near
      exact ofScientific_near_mul pos canonical fits positive (by omega) near
    · rename_i below
      have power : (n : ℚ) * 10 ^ k = n / 10 ^ (-k).toNat := by
        rw [← zpow_natCast, Int.toNat_of_nonneg (by omega), zpow_neg, div_inv_eq_mul]
      rw [power] at near
      exact ofScientific_near_div pos canonical fits positive (by omega) (by omega) near
  rw [ofDecimal]
  simp only [if_neg positive.ne', size, if_neg (show ¬ 400 < k + (length : ℤ) by omega),
    if_neg (show ¬ k + (length : ℤ) < -400 by omega), read]

end TradingDesk.Binary64
