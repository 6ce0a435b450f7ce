import TradingDesk.Binary64.Basic
import TradingDesk.Proofs.Binary64.Rounding

/-!
# Values of Numbers that are not Negative

A finite double precision number that is not negative stands for a rational number; both zeros stand
for zero.  A sum or a quotient of such numbers is infinite or stands for a number that misses the
exact one by at most the part 2 ^ -52, and a quotient by at most the smallest number besides.

Weights are such numbers, and these facts are what their sum needs.
-/

namespace TradingDesk.Binary64

open Float.Model Float.Model.UnpackedFloat

/-- What a finite number that is not negative stands for. -/
inductive Stands : UnpackedFloat → ℚ → Prop
  | zero (s : Sign) : Stands (.zero s) 0
  | finite {m : ℕ} {e : ℤ} (pos : 0 < m) : Stands (.finite .positive m e pos) (m * 2 ^ e)

/-- Whether a number is finite, not negative, and stands for a rational number. -/
def HasValue (x : Float) (a : ℚ) : Prop :=
  Stands x.toModel.unpack a

/-- Whether a number is positive infinity. -/
def IsInfinite (x : Float) : Prop :=
  x.toModel.unpack = .infinity .positive

variable {m n : ℕ} {e k : ℤ} {a b c : ℚ} {x y : Float}

theorem Stands.nonneg {u : UnpackedFloat} (h : Stands u a) : 0 ≤ a := by
  cases h with
  | zero => exact le_rfl
  | finite => positivity

theorem HasValue.nonneg (h : HasValue x a) : 0 ≤ a :=
  Stands.nonneg h

/-! ## Rounded results -/

/-- The part of a number that rounding can change. -/
def roundoff : ℚ := 1 / 2 ^ 52

/-- The smallest positive number. -/
def smallest : ℚ := 1 / 2 ^ 1074

theorem two_zpow_neg : (2 : ℚ) ^ (-1074 : ℤ) = smallest := by
  rw [smallest, zpow_neg, one_div]
  rfl

/-- How a number is rounded at the exponent of a unit: to infinity when it is large, or to a
neighbour, which has the digits of the unit unless the unit is the smallest. -/
def RoundsTo (a : ℚ) (k : ℤ) (u : UnpackedFloat) : Prop :=
  (u = .infinity .positive ∧ 2 ^ 1023 ≤ a) ∨
    ∃ c, Stands u c ∧ c ≤ a + 2 ^ k ∧ a ≤ c + 2 ^ k ∧
      (k = -1074 ∨ 2 ^ 52 * 2 ^ k ≤ c ∧ 2 ^ 52 * 2 ^ k ≤ a)

/-- A number of 53 bits whose exponent is too large is above all that have a value. -/
theorem two_pow_le_of_overflow (digits : 2 ^ 52 ≤ m) (large : 971 < e) :
    2 * (2 : ℚ) ^ 1023 ≤ m * 2 ^ e := by
  calc 2 * (2 : ℚ) ^ 1023 = 2 ^ (1 : ℤ) * 2 ^ (1023 : ℤ) := by rw [zpow_one]; rfl
    _ = 2 ^ (52 : ℤ) * 2 ^ (972 : ℤ) := by
      rw [← zpow_add₀ (by norm_num), ← zpow_add₀ (by norm_num)]
      congr 1
    _ ≤ m * 2 ^ e := by
      gcongr
      · exact_mod_cast digits
      · norm_num
      · omega

/-- A number between two neighbours of an exponent is rounded to its unit. -/
theorem roundWithAccuracy_roundsTo (accuracy : Accuracy) (ready : e ≤ unitExponent m e)
    (low : m * 2 ^ e ≤ a) (high : a ≤ (m + 1) * 2 ^ e) :
    RoundsTo a (unitExponent m e)
      (Float.Model.pack (roundWithAccuracy Format.binary64 .positive m e accuracy)).unpack := by
  obtain ⟨r, below, above, -, outcome⟩ := roundWithAccuracy_cases .positive accuracy ready
  have floor_le := unitsOf_le ready
  have le_ceil := le_succ_unitsOf ready
  have grown : (unitsOf m e : ℚ) * 2 ^ unitExponent m e ≤ r * 2 ^ unitExponent m e := by
    gcongr
  have bounded : (r : ℚ) * 2 ^ unitExponent m e ≤ (unitsOf m e + 1) * 2 ^ unitExponent m e := by
    gcongr
    exact_mod_cast above
  have full : unitExponent m e = -1074 ∨
      2 ^ 52 * 2 ^ unitExponent m e ≤ (r : ℚ) * 2 ^ unitExponent m e ∧
        2 ^ 52 * 2 ^ unitExponent m e ≤ a := by
    rcases le_unitsOf ready with digits | lowest
    · right
      have top : (2 : ℚ) ^ 52 * 2 ^ unitExponent m e ≤ unitsOf m e * 2 ^ unitExponent m e := by
        gcongr
        exact_mod_cast digits
      exact ⟨top.trans grown, (top.trans floor_le).trans low⟩
    · exact Or.inl lowest
  have upper : (r : ℚ) * 2 ^ unitExponent m e ≤ a + 2 ^ unitExponent m e := by linarith
  have lower : a ≤ r * 2 ^ unitExponent m e + 2 ^ unitExponent m e := by linarith
  obtain ⟨none, zero⟩ | ⟨m', e', pos', rounded, canonical, value⟩ := outcome
  · right
    refine ⟨0, ?_, ?_⟩
    · rw [zero, unpack_pack_zero]
      exact Stands.zero _
    · rw [none, Nat.cast_zero, zero_mul] at upper lower full
      exact ⟨upper, lower, full⟩
  · rw [rounded]
    by_cases fits : e' ≤ 971
    · right
      refine ⟨r * 2 ^ unitExponent m e, ?_, upper, lower, full⟩
      rw [unpack_pack_finite pos' canonical fits, ← value]
      exact Stands.finite pos'
    · left
      refine ⟨unpack_pack_overflow pos' (lt_of_not_ge fits), ?_⟩
      have digits : 2 ^ 52 ≤ m' := canonical.full.resolve_right (by omega)
      have huge : 2 * (2 : ℚ) ^ 1023 ≤ r * 2 ^ unitExponent m e :=
        value ▸ two_pow_le_of_overflow digits (lt_of_not_ge fits)
      have one_le : (1 : ℚ) ≤ 2 ^ 1023 := one_le_pow₀ (by norm_num)
      generalize (2 : ℚ) ^ 1023 = big at *
      rcases full with lowest | ⟨-, unit_le⟩
      · have tiny : (2 : ℚ) ^ unitExponent m e ≤ 1 := by
          rw [lowest]
          exact zpow_le_one_of_nonpos₀ (by norm_num) (by norm_num)
        linarith
      · have unit_pos : (0 : ℚ) < 2 ^ unitExponent m e := by positivity
        linarith

/-- A number that ends at its unit is kept, unless it is too large. -/
theorem roundWithAccuracy_exact (still : unitExponent m e = e) :
    (Float.Model.pack (roundWithAccuracy Format.binary64 .positive m e .exact)).unpack =
        .infinity .positive ∨
      Stands (Float.Model.pack (roundWithAccuracy Format.binary64 .positive m e .exact)).unpack
        (m * 2 ^ e) := by
  obtain ⟨r, -, -, kept, outcome⟩ := roundWithAccuracy_cases .positive .exact still.ge
  rw [kept rfl still, still] at outcome
  obtain ⟨rfl, zero⟩ | ⟨m', e', pos', rounded, canonical, value⟩ := outcome
  · right
    rw [zero, unpack_pack_zero, Nat.cast_zero, zero_mul]
    exact Stands.zero _
  · rw [rounded, ← value]
    by_cases fits : e' ≤ 971
    · right
      rw [unpack_pack_finite pos' canonical fits]
      exact Stands.finite pos'
    · left
      exact unpack_pack_overflow pos' (lt_of_not_ge fits)

theorem log2_shiftLeft (pos : 0 < m) (n : ℕ) : (m <<< n).log2 = m.log2 + n := by
  have nonzero : m <<< n ≠ 0 := by
    rw [Nat.shiftLeft_eq]
    positivity
  rw [Nat.log2_eq_iff nonzero, Nat.shiftLeft_eq]
  have low := Nat.log2_self_le pos.ne'
  have high := @Nat.lt_log2_self m
  constructor
  · rw [pow_add]
    gcongr
  · rw [show m.log2 + n + 1 = m.log2 + 1 + n by omega, pow_add]
    gcongr

theorem decreaseExponent_value (m : ℕ) (e t : ℤ) :
    ((decreaseExponent m e t).1 : ℚ) * 2 ^ (decreaseExponent m e t).2 = m * 2 ^ e := by
  simp only [decreaseExponent, Nat.shiftLeft_eq, Nat.cast_mul, Nat.cast_pow, Nat.cast_ofNat]
  rw [← zpow_natCast, mul_assoc, ← zpow_add₀ (by norm_num)]
  congr 2
  omega

/-- A number whose digits end at the lowest exponent or above it keeps all but a part of itself when
it is rounded, since numbers with the smallest unit are kept as they are. -/
theorem round_lower (pos : 0 < m) (lowest : -1074 ≤ e) :
    (Float.Model.pack (UnpackedFloat.round Format.binary64 .positive m e)).unpack =
        .infinity .positive ∨
      ∃ c, Stands (Float.Model.pack
          (UnpackedFloat.round Format.binary64 .positive m e)).unpack c ∧
        m * 2 ^ e ≤ c * (1 + roundoff) := by
  have lowered : UnpackedFloat.round Format.binary64 .positive m e =
      roundWithAccuracy Format.binary64 .positive (decreaseExponent m e (unitExponent m e)).1
        (decreaseExponent m e (unitExponent m e)).2 .exact := rfl
  have value := decreaseExponent_value m e (unitExponent m e)
  have exponent : (decreaseExponent m e (unitExponent m e)).2 = Min.min e (unitExponent m e) := by
    simp only [decreaseExponent]
    omega
  have pos' : 0 < (decreaseExponent m e (unitExponent m e)).1 := by
    simp only [decreaseExponent, Nat.shiftLeft_eq]
    positivity
  have unit : unitExponent (decreaseExponent m e (unitExponent m e)).1
      (decreaseExponent m e (unitExponent m e)).2 = unitExponent m e := by
    rw [unitExponent_eq, exponent]
    simp only [decreaseExponent]
    rw [log2_shiftLeft pos, unitExponent_eq]
    omega
  rw [lowered, ← value]
  generalize (decreaseExponent m e (unitExponent m e)).1 = m' at *
  generalize (decreaseExponent m e (unitExponent m e)).2 = e' at *
  by_cases still : unitExponent m' e' = e'
  · refine (roundWithAccuracy_exact still).imp_right fun stands ↦ ⟨_, stands, ?_⟩
    have part : (0 : ℚ) ≤ roundoff := by norm_num [roundoff]
    have whole : (0 : ℚ) ≤ m' * 2 ^ e' := by positivity
    linarith [mul_nonneg whole part]
  · rcases roundWithAccuracy_roundsTo .exact (a := m' * 2 ^ e') (m := m') (e := e') (by omega)
      le_rfl (by gcongr; linarith) with ⟨large, -⟩ | ⟨c, stands, -, below, full⟩
    · exact Or.inl large
    · right
      have unit_le := (full.resolve_left (by omega)).1
      have part : (2 : ℚ) ^ unitExponent m' e' ≤ c * roundoff := by
        rw [roundoff, mul_one_div, le_div_iff₀ (by norm_num)]
        linarith
      exact ⟨c, stands, by linarith⟩

/-! ## Sums -/

theorem le_mul_roundoff (nonneg : 0 ≤ a) : a ≤ a * (1 + roundoff) := by
  have part : (0 : ℚ) ≤ roundoff := by norm_num [roundoff]
  linarith [mul_nonneg nonneg part]

/-- A canonical number is kept by packing. -/
theorem unpack_pack_of_hasValue (h : HasValue x a) :
    (Float.Model.pack x.toModel.unpack).unpack = x.toModel.unpack := by
  unfold HasValue at h
  generalize unpacked : x.toModel.unpack = u at h
  cases h with
  | zero s => exact unpack_pack_zero s
  | finite pos =>
    obtain ⟨canonical, fits⟩ := canonical_of_unpack unpacked
    exact unpack_pack_finite pos canonical fits

/-- Positive numbers are added at the lower of their exponents. -/
theorem add_finite (pos : 0 < m) (pos' : 0 < n) :
    UnpackedFloat.add Format.binary64 (.finite .positive m e pos) (.finite .positive n k pos') =
      UnpackedFloat.round Format.binary64 .positive
        ((decreaseExponent m e (Min.min e k)).1 + (decreaseExponent n k (Min.min e k)).1)
        (Min.min e k) := by
  have shifted : 0 < (decreaseExponent m e (Min.min e k)).1 := by
    simp only [decreaseExponent, Nat.shiftLeft_eq]
    positivity
  change UnpackedFloat.normalize Format.binary64 (((decreaseExponent m e (Min.min e k)).1 : ℤ) +
    (decreaseExponent n k (Min.min e k)).1) (Min.min e k) .positive = _
  rw [UnpackedFloat.normalize, Int.compare_eq_gt.2 (by omega)]
  rfl

/-- A sum of positive numbers that is not infinite keeps all but a part of the exact one. -/
theorem add_finite_outcome (pos : 0 < m) (pos' : 0 < n) (low : -1074 ≤ e) (low' : -1074 ≤ k) :
    (Float.Model.pack (UnpackedFloat.add Format.binary64 (.finite .positive m e pos)
        (.finite .positive n k pos'))).unpack = .infinity .positive ∨
      ∃ c, Stands (Float.Model.pack (UnpackedFloat.add Format.binary64
        (.finite .positive m e pos) (.finite .positive n k pos'))).unpack c ∧
        m * 2 ^ e + n * 2 ^ k ≤ c * (1 + roundoff) := by
  have exponentX : (decreaseExponent m e (Min.min e k)).2 = Min.min e k := by
    simp only [decreaseExponent]
    omega
  have exponentY : (decreaseExponent n k (Min.min e k)).2 = Min.min e k := by
    simp only [decreaseExponent]
    omega
  have valueX := decreaseExponent_value m e (Min.min e k)
  have valueY := decreaseExponent_value n k (Min.min e k)
  rw [exponentX] at valueX
  rw [exponentY] at valueY
  have sum : (((decreaseExponent m e (Min.min e k)).1 +
      (decreaseExponent n k (Min.min e k)).1 : ℕ) : ℚ) * 2 ^ (Min.min e k) =
        m * 2 ^ e + n * 2 ^ k := by
    push_cast
    rw [add_mul, valueX, valueY]
  have pos'' : 0 < (decreaseExponent m e (Min.min e k)).1 +
      (decreaseExponent n k (Min.min e k)).1 := by
    simp only [decreaseExponent, Nat.shiftLeft_eq]
    positivity
  rw [add_finite pos pos', ← sum]
  exact round_lower pos'' (by omega)

/-- A sum that is not infinite keeps all but a part of the exact one. -/
theorem add_outcome (hx : HasValue x a) (hy : HasValue y b) :
    IsInfinite (x + y) ∨ ∃ c, HasValue (x + y) c ∧ a + b ≤ c * (1 + roundoff) := by
  have keptX := unpack_pack_of_hasValue hx
  have keptY := unpack_pack_of_hasValue hy
  change (Float.Model.pack (UnpackedFloat.add Format.binary64 x.toModel.unpack
      y.toModel.unpack)).unpack = _ ∨ ∃ c, Stands (Float.Model.pack (UnpackedFloat.add
        Format.binary64 x.toModel.unpack y.toModel.unpack)).unpack c ∧ _
  unfold HasValue at hx hy
  generalize unpackedX : x.toModel.unpack = u at *
  generalize unpackedY : y.toModel.unpack = v at *
  cases hx with
  | zero s =>
    right
    cases hy with
    | zero s' =>
      have sum : ∃ s'', UnpackedFloat.add Format.binary64 (.zero s) (.zero s') = .zero s'' := by
        cases s <;> cases s' <;> exact ⟨_, rfl⟩
      obtain ⟨s'', sum⟩ := sum
      refine ⟨0, ?_, by norm_num⟩
      rw [sum, unpack_pack_zero]
      exact Stands.zero _
    | finite pos =>
      refine ⟨_, ?_, by rw [zero_add]; exact le_mul_roundoff (Stands.finite pos).nonneg⟩
      change Stands (Float.Model.pack (.finite _ _ _ _)).unpack _
      rw [keptY]
      exact Stands.finite pos
  | @finite m e pos =>
    cases hy with
    | zero s' =>
      right
      refine ⟨_, ?_, by rw [add_zero]; exact le_mul_roundoff (Stands.finite pos).nonneg⟩
      change Stands (Float.Model.pack (.finite _ _ _ _)).unpack _
      rw [keptX]
      exact Stands.finite pos
    | @finite n k pos' =>
      exact add_finite_outcome pos pos' (canonical_of_unpack unpackedX).1.le
        (canonical_of_unpack unpackedY).1.le

theorem IsInfinite.add (hx : IsInfinite x) (hy : IsInfinite y ∨ HasValue y b) :
    IsInfinite (x + y) := by
  change (Float.Model.pack (UnpackedFloat.add Format.binary64 x.toModel.unpack
    y.toModel.unpack)).unpack = _
  unfold HasValue IsInfinite at *
  rw [hx]
  generalize y.toModel.unpack = v at hy
  rcases hy with rfl | hy
  · rfl
  · cases hy <;> exact unpack_pack_infinity _

/-! ## Quotients -/

/-- The exponent at which a quotient is developed. -/
def quotientExponent (m : ℕ) (e : ℤ) (n : ℕ) (k : ℤ) : ℤ :=
  Min.min (e - k) (Format.binary64.targetExponent (totalExponent m e - totalExponent n k))

theorem quotientExponent_eq (m : ℕ) (e : ℤ) (n : ℕ) (k : ℤ) :
    quotientExponent m e n k =
      Min.min (e - k) (Max.max ((m.log2 : ℤ) + e - (n.log2 + k) - 53) (-1074)) := by
  simp only [quotientExponent, Format.targetExponent, totalExponent, Format.mantissaBits,
    Format.minExponent]
  omega

/-- The digits of a quotient. -/
def quotientDigits (m : ℕ) (e : ℤ) (n : ℕ) (k : ℤ) : ℕ :=
  m * 2 ^ (e - k - quotientExponent m e n k).toNat / n

/-- The digits of a quotient reach its unit. -/
theorem quotientExponent_le (pos : 0 < m) (pos' : 0 < n) :
    quotientExponent m e n k ≤
      unitExponent (quotientDigits m e n k) (quotientExponent m e n k) := by
  by_cases lowest : quotientExponent m e n k ≤ -1074
  · rw [unitExponent_eq]
    omega
  · have shift : n.log2 + 53 ≤ m.log2 + (e - k - quotientExponent m e n k).toNat := by
      rw [quotientExponent_eq] at lowest ⊢
      omega
    have digits : 2 ^ 52 ≤ quotientDigits m e n k := by
      rw [quotientDigits, Nat.le_div_iff_mul_le pos']
      calc 2 ^ 52 * n ≤ 2 ^ 52 * 2 ^ (n.log2 + 1) := by
            gcongr
            exact Nat.lt_log2_self.le
        _ = 2 ^ (n.log2 + 53) := by
            rw [← pow_add]
            congr 1
            omega
        _ ≤ 2 ^ (m.log2 + (e - k - quotientExponent m e n k).toNat) :=
            Nat.pow_le_pow_right (by omega) shift
        _ ≤ m * 2 ^ (e - k - quotientExponent m e n k).toNat := by
            rw [pow_add]
            gcongr
            exact Nat.log2_self_le pos.ne'
    have bits : 52 ≤ (quotientDigits m e n k).log2 := (Nat.le_log2 (by omega)).2 digits
    rw [unitExponent_eq]
    omega

/-- The exact quotient lies between its digits and the next number. -/
theorem quotient_bracket (pos' : 0 < n) :
    (quotientDigits m e n k : ℚ) * 2 ^ quotientExponent m e n k ≤
        (m * 2 ^ e) / (n * 2 ^ k) ∧
      ((m : ℚ) * 2 ^ e) / (n * 2 ^ k) ≤
        (quotientDigits m e n k + 1) * 2 ^ quotientExponent m e n k := by
  have ready : quotientExponent m e n k ≤ e - k := by
    rw [quotientExponent_eq]
    omega
  have exact : ((m : ℚ) * 2 ^ e) / (n * 2 ^ k) =
      (m * 2 ^ (e - k - quotientExponent m e n k).toNat : ℕ) / n *
        2 ^ quotientExponent m e n k := by
    have split : (2 : ℚ) ^ (e - k - quotientExponent m e n k).toNat *
        2 ^ quotientExponent m e n k = 2 ^ (e - k) := by
      rw [← zpow_natCast, ← zpow_add₀ (by norm_num)]
      congr 1
      omega
    push_cast
    rw [mul_div_mul_comm, ← zpow_sub₀ (by norm_num), ← split]
    ring
  have below : (quotientDigits m e n k : ℚ) * n ≤
      (m * 2 ^ (e - k - quotientExponent m e n k).toNat : ℕ) := by
    exact_mod_cast Nat.div_mul_le_self _ _
  have above : ((m * 2 ^ (e - k - quotientExponent m e n k).toNat : ℕ) : ℚ) ≤
      (quotientDigits m e n k + 1) * n := by
    have whole : m * 2 ^ (e - k - quotientExponent m e n k).toNat ≤
        n * (quotientDigits m e n k + 1) := (Nat.lt_mul_div_succ _ pos').le
    rw [mul_comm n] at whole
    exact_mod_cast whole
  have divisor : (0 : ℚ) < n := by exact_mod_cast pos'
  rw [exact]
  constructor
  · gcongr
    rwa [le_div_iff₀ divisor]
  · gcongr
    rwa [div_le_iff₀ divisor]

/-- Numbers are divided with as many digits as their unit takes. -/
theorem div_finite (s : Sign) (e k : ℤ) (pos : 0 < m) (pos' : 0 < n) :
    ∃ accuracy, UnpackedFloat.div Format.binary64 (.finite s m e pos)
        (.finite .positive n k pos') =
      roundWithAccuracy Format.binary64 s (quotientDigits m e n k)
        (quotientExponent m e n k) accuracy := by
  refine ⟨accuracyOfFraction (m * 2 ^ (e - k - quotientExponent m e n k).toNat % n) n, ?_⟩
  rw [quotientDigits, ← Nat.shiftLeft_eq]
  cases s <;> rfl

/-- A quotient is large when it is infinite, and otherwise exceeds the exact one by at most a part
of it and the smallest number. -/
theorem div_outcome (hx : HasValue x a) (hy : HasValue y b) (pos : 0 < b) :
    (IsInfinite (x / y) ∧ 2 ^ 1023 ≤ a / b) ∨
      ∃ c, HasValue (x / y) c ∧ c ≤ a / b * (1 + roundoff) + smallest := by
  change (Float.Model.pack (UnpackedFloat.div Format.binary64 x.toModel.unpack
      y.toModel.unpack)).unpack = _ ∧ _ ∨ ∃ c, Stands (Float.Model.pack (UnpackedFloat.div
        Format.binary64 x.toModel.unpack y.toModel.unpack)).unpack c ∧ _
  have tiny : (0 : ℚ) ≤ smallest := by
    rw [smallest]
    positivity
  have part : (0 : ℚ) ≤ roundoff := by norm_num [roundoff]
  unfold HasValue at hx hy
  generalize x.toModel.unpack = u at *
  generalize y.toModel.unpack = v at *
  cases hy with
  | zero s => exact absurd pos (lt_irrefl _)
  | @finite n k pos' =>
    cases hx with
    | zero s =>
      right
      refine ⟨0, ?_, by simpa using tiny⟩
      change Stands (Float.Model.pack (.zero _)).unpack 0
      rw [unpack_pack_zero]
      exact Stands.zero _
    | @finite m e pos'' =>
      obtain ⟨accuracy, quotient⟩ := div_finite .positive e k pos'' pos'
      have nonneg : (0 : ℚ) ≤ (m * 2 ^ e) / (n * 2 ^ k) := by positivity
      obtain ⟨low, high⟩ := @quotient_bracket m n e k pos'
      rw [quotient]
      refine (roundWithAccuracy_roundsTo accuracy (quotientExponent_le pos'' pos') low
        high).imp_right ?_
      rintro ⟨c, stands, above, -, full⟩
      refine ⟨c, stands, ?_⟩
      generalize unitExponent (quotientDigits m e n k) (quotientExponent m e n k) = j at *
      rcases full with rfl | ⟨-, unit_le⟩
      · rw [two_zpow_neg] at above
        linarith [mul_nonneg nonneg part]
      · have unit_part : (2 : ℚ) ^ j ≤ (m * 2 ^ e) / (n * 2 ^ k) * roundoff := by
          rw [roundoff, mul_one_div, le_div_iff₀ (by norm_num)]
          linarith
        linarith

theorem HasValue.div_infinite (hx : HasValue x a) (hy : IsInfinite y) : HasValue (x / y) 0 := by
  change Stands (Float.Model.pack (UnpackedFloat.div Format.binary64 x.toModel.unpack
    y.toModel.unpack)).unpack 0
  unfold HasValue IsInfinite at *
  rw [hy]
  generalize x.toModel.unpack = u at hx
  cases hx with
  | zero s =>
    change Stands (Float.Model.pack (.zero _)).unpack 0
    rw [unpack_pack_zero]
    exact Stands.zero _
  | finite pos =>
    change Stands (Float.Model.pack (.zero _)).unpack 0
    rw [unpack_pack_zero]
    exact Stands.zero _

end TradingDesk.Binary64
