import TradingDesk.Proofs.Binary64.Value

/-!
# Comparing Numbers

Comparing two numbers that are not negative compares what they stand for, since the exponents of
canonical numbers decide before their digits do.  A number between such bounds is finite and not
negative itself.

Limits that are not negative leave a number that is finite and not negative, whatever number they
are applied to, as long as it is a number at all.
-/

namespace TradingDesk.Binary64

open Float.Model Float.Model.UnpackedFloat

variable {x y low high : Float} {a b : ℚ}

/-- Whether a value is a number, possibly an infinite one. -/
def IsNumber (x : Float) : Prop :=
  x.toModel.unpack ≠ .notANumber

theorem lt_iff_compare : x < y ↔
    UnpackedFloat.compare x.toModel.unpack y.toModel.unpack = some .lt := by
  have decided : x < y ↔ decide (x.toModel < y.toModel) = true := Iff.rfl
  rw [decided, decide_eq_true_iff]
  exact beq_iff_eq

theorem le_iff_compare : x ≤ y ↔
    (UnpackedFloat.compare x.toModel.unpack y.toModel.unpack).any (·.isLE) := by
  have decided : x ≤ y ↔ decide (x.toModel ≤ y.toModel) = true := Iff.rfl
  rw [decided, decide_eq_true_iff]
  exact Iff.rfl

theorem unpack_zero : (0.0 : Float).toModel.unpack = .zero .positive := by
  rfl

theorem unpack_one :
    (1.0 : Float).toModel.unpack = .finite .positive (2 ^ 52) (-52) (by decide) := by
  rfl

theorem HasValue.isNumber (h : HasValue x a) : IsNumber x := by
  unfold HasValue at h
  unfold IsNumber
  generalize x.toModel.unpack = u at *
  cases h <;> exact UnpackedFloat.noConfusion

/-- A number that is not below a number that is not negative. -/
theorem hasValue_of_not_lt (number : IsNumber x) (bound : HasValue y b) (h : ¬ x < y) :
    IsInfinite x ∨ ∃ a, HasValue x a := by
  rw [lt_iff_compare] at h
  unfold HasValue IsInfinite IsNumber at *
  generalize x.toModel.unpack = u at *
  generalize y.toModel.unpack = v at *
  cases u with
  | notANumber => exact absurd rfl number
  | infinity s =>
    cases s with
    | positive => exact Or.inl rfl
    | negative => cases bound <;> exact absurd rfl h
  | zero s => exact Or.inr ⟨0, Stands.zero s⟩
  | finite s m e pos =>
    cases s with
    | positive => exact Or.inr ⟨_, Stands.finite pos⟩
    | negative => cases bound <;> exact absurd rfl h

theorem isInfinite_or_hasValue (h : 0.0 ≤ x) : IsInfinite x ∨ ∃ a, HasValue x a := by
  rw [le_iff_compare, unpack_zero] at h
  unfold HasValue IsInfinite
  generalize x.toModel.unpack = u at *
  cases u with
  | notANumber => exact absurd h Bool.false_ne_true
  | infinity s =>
    cases s with
    | positive => exact Or.inl rfl
    | negative => exact absurd h Bool.false_ne_true
  | zero s => exact Or.inr ⟨0, Stands.zero s⟩
  | finite s m e pos =>
    cases s with
    | positive => exact Or.inr ⟨_, Stands.finite pos⟩
    | negative => exact absurd h Bool.false_ne_true

theorem not_le_of_infinite (h : IsInfinite x) (bound : HasValue y b) : ¬ x ≤ y := by
  rw [le_iff_compare]
  unfold HasValue IsInfinite at *
  rw [h]
  generalize y.toModel.unpack = v at *
  cases bound <;> exact Bool.false_ne_true

theorem lt_of_infinite (h : IsInfinite y) (bound : HasValue x b) : x < y := by
  rw [lt_iff_compare]
  unfold HasValue IsInfinite at *
  rw [h]
  generalize x.toModel.unpack = v at *
  cases bound <;> rfl

theorem hasValue_zero : HasValue 0.0 0 := by
  unfold HasValue
  rw [unpack_zero]
  exact Stands.zero _

theorem hasValue_one : HasValue 1.0 1 := by
  have one := Stands.finite (m := 2 ^ 52) (e := -52) (by norm_num)
  norm_num at one
  unfold HasValue
  rw [unpack_one]
  exact one

theorem hasValue_of_bounds (low : 0.0 ≤ x) (high : x ≤ 1.0) : ∃ a, HasValue x a := by
  refine (isInfinite_or_hasValue low).resolve_left ?_
  intro infinite
  exact not_le_of_infinite infinite hasValue_one high

/-- The number with the larger exponent is the larger one. -/
theorem value_lt_of_exponent_lt {m n : ℕ} {e k : ℤ} (hm : IsCanonical m e) (hn : IsCanonical n k)
    (h : e < k) : (m : ℚ) * 2 ^ e < n * 2 ^ k := by
  have short : (m : ℚ) < 2 ^ 53 := by exact_mod_cast hm.lt
  have full : 2 ^ 52 ≤ n := by
    have le := hm.le
    exact hn.full.resolve_right (by omega)
  have full : (2 : ℚ) ^ 52 ≤ n := by exact_mod_cast full
  have unit : (2 : ℚ) ^ e * 2 ≤ 2 ^ k := by
    rw [← zpow_add_one₀ (by norm_num)]
    exact zpow_le_zpow_right₀ (by norm_num) (by omega)
  calc (m : ℚ) * 2 ^ e < 2 ^ 53 * 2 ^ e := by gcongr
    _ = 2 ^ 52 * (2 ^ e * 2) := by ring
    _ ≤ n * 2 ^ k := by gcongr

/-- Comparing two numbers compares what they stand for. -/
theorem compare_eq_compare (hx : HasValue x a) (hy : HasValue y b) :
    UnpackedFloat.compare x.toModel.unpack y.toModel.unpack = some (Ord.compare a b) := by
  unfold HasValue at hx hy
  generalize unpackedX : x.toModel.unpack = u at *
  generalize unpackedY : y.toModel.unpack = v at *
  cases hx with
  | zero s =>
    cases hy with
    | zero s' => exact congrArg some (compare_eq_iff_eq.2 rfl).symm
    | finite pos' =>
      exact congrArg some (compare_lt_iff_lt.2 (by positivity)).symm
  | @finite m e pos =>
    cases hy with
    | zero s' => exact congrArg some (compare_gt_iff_gt.2 (by positivity)).symm
    | @finite n k pos' =>
      have canonicalX := (canonical_of_unpack unpackedX).1
      have canonicalY := (canonical_of_unpack unpackedY).1
      change some ((Ord.compare e k).then (Ord.compare m n)) = _
      have unit : (0 : ℚ) < 2 ^ k := by positivity
      rcases lt_trichotomy e k with less | rfl | more
      · rw [compare_lt_iff_lt.2 less,
          compare_lt_iff_lt.2 (value_lt_of_exponent_lt canonicalX canonicalY less)]
        rfl
      · rw [compare_eq_iff_eq.2 rfl]
        rcases lt_trichotomy m n with less | rfl | more
        · have less' : (m : ℚ) < n := by exact_mod_cast less
          rw [compare_lt_iff_lt.2 less, compare_lt_iff_lt.2 (mul_lt_mul_of_pos_right less' unit)]
          rfl
        · rw [compare_eq_iff_eq.2 rfl, compare_eq_iff_eq.2 rfl]
          rfl
        · have more' : (n : ℚ) < m := by exact_mod_cast more
          rw [compare_gt_iff_gt.2 more, compare_gt_iff_gt.2 (mul_lt_mul_of_pos_right more' unit)]
          rfl
      · rw [compare_gt_iff_gt.2 more,
          compare_gt_iff_gt.2 (value_lt_of_exponent_lt canonicalY canonicalX more)]
        rfl

theorem lt_iff (hx : HasValue x a) (hy : HasValue y b) : x < y ↔ a < b := by
  rw [lt_iff_compare, compare_eq_compare hx hy, Option.some_inj, compare_lt_iff_lt]

theorem le_iff (hx : HasValue x a) (hy : HasValue y b) : x ≤ y ↔ a ≤ b := by
  rw [le_iff_compare, compare_eq_compare hx hy, ← compare_le_iff_le]
  change (Ord.compare a b).isLE = true ↔ _
  cases Ord.compare a b <;> decide

/-! ## Limits -/

theorem isNumber_of_isFinite (finite : x.isFinite) : IsNumber x := by
  intro none
  have known : x.toModel.unpack.isFinite := finite
  rw [none] at known
  cases known

theorem not_isInfinite_of_isFinite (finite : x.isFinite) : ¬ IsInfinite x := by
  intro infinite
  have known : x.toModel.unpack.isFinite := finite
  rw [show x.toModel.unpack = .infinity .positive from infinite] at known
  cases known

theorem HasValue.isFinite (h : HasValue x a) : x.isFinite := by
  change x.toModel.unpack.isFinite
  unfold HasValue at h
  generalize x.toModel.unpack = u at *
  cases h <;> rfl

/-- Limits that are not negative leave a finite number that is not negative. -/
theorem clamp?_hasValue (number : IsNumber x) (hl : HasValue low a) (hh : HasValue high b)
    (h : clamp? x low high = some y) : ∃ c, HasValue y c := by
  unfold clamp? at h
  split at h
  · cases h
    split
    · exact ⟨a, hl⟩
    · rename_i above
      split
      · exact ⟨b, hh⟩
      · rename_i below
        refine (hasValue_of_not_lt number hl above).resolve_left ?_
        intro infinite
        exact below (lt_of_infinite infinite hh)
  · cases h

/-- The larger of two finite numbers, one of which is not negative. -/
theorem max_hasValue (finite : x.isFinite) (bound : HasValue y b) :
    ∃ c, HasValue (max x y) c ∧ b ≤ c := by
  have number := isNumber_of_isFinite finite
  have notNaN {z : Float} (h : IsNumber z) : z.isNaN ≠ true := by
    change z.toModel.unpack.isNaN ≠ true
    unfold IsNumber at h
    generalize z.toModel.unpack = u at *
    cases u <;> first | exact Bool.false_ne_true | exact absurd rfl h
  rw [max, if_neg (notNaN number), if_neg (notNaN bound.isNumber)]
  split
  · exact ⟨b, bound, le_rfl⟩
  · rename_i above
    obtain ⟨c, value⟩ := (hasValue_of_not_lt number bound above).resolve_left
      (not_isInfinite_of_isFinite finite)
    exact ⟨c, value, not_lt.1 (mt (lt_iff value bound).2 above)⟩

/-! ## Numbers that are computed -/

theorem isNumber_of_rounded {m : ℕ} {e : ℤ} (s : Sign) (accuracy : Accuracy)
    (ready : e ≤ unitExponent m e) :
    (Float.Model.pack (roundWithAccuracy Format.binary64 s m e accuracy)).unpack ≠ .notANumber := by
  obtain ⟨r, -, -, -, ⟨-, zero⟩ | ⟨m', e', pos', rounded, canonical, -⟩⟩ :=
    roundWithAccuracy_cases s accuracy ready
  · rw [zero, unpack_pack_zero]
    exact UnpackedFloat.noConfusion
  · rw [rounded]
    by_cases fits : e' ≤ 971
    · rw [unpack_pack_finite pos' canonical fits]
      exact UnpackedFloat.noConfusion
    · rw [unpack_pack_overflow pos' (lt_of_not_ge fits)]
      exact UnpackedFloat.noConfusion

/-- A finite number divided by a positive one is a number. -/
theorem isNumber_div (finite : x.isFinite) (hy : HasValue y b) (pos : 0 < b) :
    IsNumber (x / y) := by
  change (Float.Model.pack (UnpackedFloat.div Format.binary64 x.toModel.unpack
    y.toModel.unpack)).unpack ≠ .notANumber
  have known : x.toModel.unpack.isFinite := finite
  unfold HasValue at hy
  generalize x.toModel.unpack = u at *
  generalize y.toModel.unpack = v at *
  cases hy with
  | zero s => exact absurd pos (lt_irrefl _)
  | @finite n k pos' =>
    cases u with
    | notANumber => cases known
    | infinity s => cases known
    | zero s =>
      change (Float.Model.pack (.zero _)).unpack ≠ .notANumber
      rw [unpack_pack_zero]
      exact UnpackedFloat.noConfusion
    | finite s m e pos'' =>
      obtain ⟨accuracy, quotient⟩ := div_finite s e k pos'' pos'
      rw [quotient]
      exact isNumber_of_rounded s accuracy (quotientExponent_le pos'' pos')

/-! ## Whole numbers -/

theorem unpack_mul (x y : Float) : (x * y).toModel.unpack =
    (Float.Model.pack (UnpackedFloat.mul Format.binary64 x.toModel.unpack
      y.toModel.unpack)).unpack := rfl

/-- The bits of one. -/
def oneBits : Float := Float.ofBits 0x3FF0000000000000

theorem unpack_oneBits :
    oneBits.toModel.unpack = .finite .positive (2 ^ 52) (-52) (by decide) := by
  rfl

theorem isInfinite_mul_oneBits (h : IsInfinite x) : IsInfinite (x * oneBits) := by
  unfold IsInfinite at *
  rw [unpack_mul, unpack_oneBits, h]
  exact unpack_pack_infinity _

/-- The product of a number and one, rounded. -/
theorem mul_oneBits_outcome (hx : HasValue x a) (half : 1 / 2 ≤ a) :
    IsInfinite (x * oneBits) ∨ ∃ c, HasValue (x * oneBits) c ∧ a ≤ c * (1 + roundoff) := by
  unfold IsInfinite HasValue
  rw [unpack_mul, unpack_oneBits]
  unfold HasValue at hx
  generalize x.toModel.unpack = u at *
  cases hx with
  | zero s => norm_num at half
  | @finite m e pos =>
    have product : UnpackedFloat.mul Format.binary64 (.finite .positive m e pos)
        (.finite .positive (2 ^ 52) (-52) (by decide)) =
          roundWithAccuracy Format.binary64 .positive (m * 2 ^ 52) (e + -52) .exact := rfl
    have value : ((m * 2 ^ 52 : ℕ) : ℚ) * 2 ^ (e + -52) = m * 2 ^ e := by
      rw [zpow_add₀ (by norm_num)]
      push_cast
      rw [show (2 : ℚ) ^ (-52 : ℤ) = 1 / 2 ^ 52 by norm_num]
      ring
    have ready : e + -52 ≤ unitExponent (m * 2 ^ 52) (e + -52) := by
      rw [unitExponent_eq, ← Nat.shiftLeft_eq, log2_shiftLeft pos]
      omega
    rw [product]
    refine (roundWithAccuracy_roundsTo .exact ready value.le ?_).imp And.left ?_
    · rw [add_mul, value]
      exact le_add_of_nonneg_right (by positivity)
    · rintro ⟨c, stands, -, below, full⟩
      refine ⟨c, stands, ?_⟩
      generalize unitExponent (m * 2 ^ 52) (e + -52) = k at *
      generalize (m : ℚ) * 2 ^ e = a at *
      have part : (2 : ℚ) ^ k ≤ c * roundoff := by
        rw [roundoff, mul_one_div, le_div_iff₀ (by norm_num)]
        rcases full with rfl | ⟨unit_le, -⟩
        · have tiny : (2 : ℚ) ^ (-1074 : ℤ) ≤ 2 ^ (-60 : ℤ) :=
            zpow_le_zpow_right₀ (by norm_num) (by norm_num)
          generalize (2 : ℚ) ^ (-1074 : ℤ) = d at *
          norm_num at tiny
          linarith
        · linarith
      linarith

theorem ofNat_eq (n : ℕ) : ofNat n =
    if n < 2 ^ 53 then n.toUInt64.toFloat * oneBits
    else Float.ofModel (Float.Model.ofScientific n 0) := by
  unfold ofNat Float.ofScientific
  split
  · rename_i small
    rw [if_pos small.1]
    rfl
  · rename_i large
    have large' : ¬ n < 2 ^ 53 := fun small ↦ large ⟨small, by decide⟩
    rw [if_neg large']
    rfl

/-- A whole number of at most 64 bits, rounded. -/
theorem unpack_toFloat {n : ℕ} (pos : 0 < n) (small : n < 2 ^ 64) :
    (n.toUInt64.toFloat).toModel.unpack =
      (Float.Model.pack (UnpackedFloat.round Format.binary64 .positive n 0)).unpack := by
  have same : n.toUInt64.toNat = n := Nat.mod_eq_of_lt small
  change (Float.Model.pack (UnpackedFloat.normalize Format.binary64 (n.toUInt64.toNat : ℤ) 0
    .positive)).unpack = _
  rw [same, UnpackedFloat.normalize, Int.compare_eq_gt.2 (by omega)]
  rfl

/-- A whole number of any size with as many zeros as a literal can have, rounded. -/
theorem ofScientific_eq {n p : ℕ} (pos : 0 < n) (room : p ≤ 2048) :
    UnpackedFloat.ofScientific Format.binary64 n (p : ℤ) =
      roundWithAccuracy Format.binary64 .positive (n <<< 53 * 10 ^ p) (-53 + 0) .exact := by
  have above : ¬ (p : ℤ) > 2 ^ Format.binary64.exponentBits := by
    change ¬ (p : ℤ) > 2048
    omega
  have below : ¬ (p : ℤ) < -((2 ^ Format.binary64.exponentBits : ℤ) + n.log2) := by
    change ¬ (p : ℤ) < -(2048 + (n.log2 : ℤ))
    omega
  unfold UnpackedFloat.ofScientific
  rw [dif_neg pos.ne', if_neg above, if_neg below, if_pos (Int.natCast_nonneg p)]
  rfl

/-- A whole number that is not too large is kept but for a part of it. -/
theorem ofNat_outcome {n : ℕ} (pos : 0 < n) :
    IsInfinite (ofNat n) ∨
      ∃ c, HasValue (ofNat n) c ∧ (n : ℚ) ≤ c * (1 + roundoff) ^ 2 := by
  have one_le : (1 : ℚ) ≤ n := by exact_mod_cast pos
  rw [ofNat_eq]
  split
  · rename_i small
    have rounded := round_lower pos (show (-1074 : ℤ) ≤ 0 by norm_num)
    rw [← unpack_toFloat pos (by omega), zpow_zero, mul_one] at rounded
    rcases rounded with infinite | ⟨b, value, below⟩
    · exact Or.inl (isInfinite_mul_oneBits infinite)
    · have half : 1 / 2 ≤ b := by
        rw [roundoff] at below
        linarith
      refine (mul_oneBits_outcome value half).imp_right ?_
      rintro ⟨c, value', below'⟩
      refine ⟨c, value', ?_⟩
      calc (n : ℚ) ≤ b * (1 + roundoff) := below
        _ ≤ c * (1 + roundoff) * (1 + roundoff) := by
          have part : (0 : ℚ) ≤ 1 + roundoff := by norm_num [roundoff]
          gcongr
        _ = c * (1 + roundoff) ^ 2 := by ring
  · have value : ((n <<< 53 * 10 ^ 0 : ℕ) : ℚ) * 2 ^ (-53 + 0 : ℤ) = n := by
      rw [Nat.shiftLeft_eq]
      push_cast
      rw [show (2 : ℚ) ^ (-53 : ℤ) = 1 / 2 ^ 53 by norm_num]
      ring
    have unit : unitExponent (n <<< 53 * 10 ^ 0) (-53 + 0) = n.log2 - 52 := by
      rw [pow_zero, mul_one, unitExponent_eq, log2_shiftLeft pos]
      omega
    have rounded := roundWithAccuracy_roundsTo .exact (by rw [unit]; omega) value.le
      (by rw [add_mul, value]; exact le_add_of_nonneg_right (by positivity))
    rw [← ofScientific_eq pos (Nat.zero_le _), unit] at rounded
    refine rounded.imp And.left ?_
    rintro ⟨c, value', -, below, full⟩
    refine ⟨c, value', ?_⟩
    have unit_le := (full.resolve_left (by omega)).1
    have part : (2 : ℚ) ^ ((n.log2 : ℤ) - 52) ≤ c * roundoff := by
      rw [roundoff, mul_one_div, le_div_iff₀ (by norm_num)]
      linarith
    have nonneg : 0 ≤ c * (1 + roundoff) := by
      have part : (0 : ℚ) ≤ roundoff := by norm_num [roundoff]
      exact mul_nonneg value'.nonneg (by linarith)
    calc (n : ℚ) ≤ c * (1 + roundoff) := by linarith
      _ ≤ c * (1 + roundoff) * (1 + roundoff) := le_mul_roundoff nonneg
      _ = c * (1 + roundoff) ^ 2 := by ring

end TradingDesk.Binary64
