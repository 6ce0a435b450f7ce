import Mathlib

/-!
# Rounding of Double Precision Numbers

An operation on double precision numbers unpacks its operands into mantissas and exponents, computes
with integers, shifts the result to the exponent that leaves 53 bits, rounds it, and packs it again.
The shift drops the digits below the chosen unit, and rounding adds at most one unit.  The unit is
at most the part 2 ^ -52 of the result unless the result is subnormal, and then it is the smallest
unit there is.

Packing keeps canonical numbers as they are, and those with too large an exponent become infinite.
-/

namespace TradingDesk.Binary64

open Float.Model Float.Model.UnpackedFloat

variable {s : Sign} {m : ℕ} {e : ℤ}

/-! ## Packing -/

/-- The parts that an unpacked number has: 53 bits at most, and fewer only at the lowest
exponent. -/
structure IsCanonical (m : ℕ) (e : ℤ) : Prop where
  lt : m < 2 ^ 53
  le : -1074 ≤ e
  full : 2 ^ 52 ≤ m ∨ e = -1074

theorem toNat_implicit (f : BitVec 52) : (1#1 ++ f).toNat = 2 ^ 52 + f.toNat := by
  rw [BitVec.toNat_append, ← Nat.shiftLeft_add_eq_or_of_lt f.isLt]
  rfl

theorem unpack_pack_zero (s : Sign) : (Float.Model.pack (.zero s)).unpack = .zero s := by
  cases s <;> rfl

theorem unpack_pack_infinity (s : Sign) :
    (Float.Model.pack (.infinity s)).unpack = .infinity s := by
  cases s <;> rfl

/-- The fields of a number with an implicit bit. -/
theorem unpack_normal {biased : ℕ} (low : 0 < biased) (high : biased < 2047)
    (mantissa : BitVec 52) :
    UnpackedFloat.unpack Format.binary64
        (packComponents Format.binary64 s (BitVec.ofNat 11 biased) mantissa) =
      .finite s (2 ^ 52 + mantissa.toNat) (biased - 1075) (by omega) := by
  have biased_toNat : (BitVec.ofNat 11 biased).toNat = biased := by
    rw [BitVec.toNat_ofNat, Nat.mod_eq_of_lt (by omega)]
  have notTop : BitVec.ofNat 11 biased ≠ -1#11 := by
    intro h
    have same := congrArg BitVec.toNat h
    rw [biased_toNat] at same
    exact absurd same (by change biased ≠ 2047; omega)
  have notZero : BitVec.ofNat 11 biased ≠ 0#11 := by
    intro h
    have same := congrArg BitVec.toNat h
    rw [biased_toNat] at same
    exact absurd same (by change biased ≠ 0; omega)
  unfold UnpackedFloat.unpack
  simp only [unpackExponent_packComponents, unpackMantissa_packComponents,
    unpackSign_packComponents, Sign.ofBitVec_toBitVec]
  rw [if_neg notTop, if_neg notZero]
  congr 1
  · exact toNat_implicit mantissa
  · rw [biased_toNat]
    change (biased : ℤ) - (1023 + 52) = biased - 1075
    ring

/-- The fields of a number without an implicit bit. -/
theorem unpack_subnormal (pos : 0 < m) (small : m < 2 ^ 52) :
    UnpackedFloat.unpack Format.binary64
        (packComponents Format.binary64 s 0#11 (BitVec.ofNat 52 m)) =
      .finite s m (-1074) pos := by
  have mantissa_toNat : (BitVec.ofNat 52 m).toNat = m := by
    rw [BitVec.toNat_ofNat, Nat.mod_eq_of_lt small]
  have notZero : BitVec.ofNat 52 m ≠ 0#52 := by
    intro h
    have same := congrArg BitVec.toNat h
    rw [mantissa_toNat] at same
    exact absurd same (by change m ≠ 0; omega)
  unfold UnpackedFloat.unpack
  simp only [unpackExponent_packComponents, unpackMantissa_packComponents,
    unpackSign_packComponents, Sign.ofBitVec_toBitVec]
  rw [if_neg (by decide), if_pos True.intro, dif_neg notZero]
  congr 1

theorem unpack_pack_overflow (pos : 0 < m) (large : 971 < e) :
    (Float.Model.pack (.finite s m e pos)).unpack = .infinity s := by
  have full : 2 ^ 11 ≤ (e + 1023 + 52).toNat + 1 := by omega
  have overflow : UnpackedFloat.pack Format.binary64 (.finite s m e pos) =
      packedInfinity Format.binary64 s := by
    unfold UnpackedFloat.pack
    exact if_pos full
  have infinite := unpack_pack_infinity s
  change UnpackedFloat.unpack Format.binary64 (UnpackedFloat.pack Format.binary64 _) = _
  rw [overflow]
  exact infinite

/-- Packing keeps canonical numbers that are not too large. -/
theorem unpack_pack_finite (pos : 0 < m) (canonical : IsCanonical m e) (fits : e ≤ 971) :
    (Float.Model.pack (.finite s m e pos)).unpack = .finite s m e pos := by
  obtain ⟨lt, le, full⟩ := canonical
  have room : ¬ 2 ^ 11 ≤ (e + 1023 + 52).toNat + 1 := by omega
  change UnpackedFloat.unpack Format.binary64 (UnpackedFloat.pack Format.binary64 _) = _
  unfold UnpackedFloat.pack
  by_cases normal : 2 ^ 52 ≤ m
  · have bits : m.log2 + 1 = 53 := by
      rw [(Nat.log2_eq_iff pos.ne').2 ⟨normal, lt⟩]
    have packed : UnpackedFloat.pack Format.binary64 (.finite s m e pos) =
        packComponents Format.binary64 s (BitVec.ofNat 11 (e + 1023 + 52).toNat)
          (BitVec.ofNat 52 m) := by
      unfold UnpackedFloat.pack
      exact (if_neg room).trans (if_pos bits)
    have unpacked := @unpack_normal s (e + 1023 + 52).toNat (by omega) (by omega)
      (BitVec.ofNat 52 m)
    refine (congrArg _ packed).trans (unpacked.trans ?_)
    congr 1
    · rw [BitVec.toNat_ofNat]
      omega
    · omega
  · have lowest : e = -1074 := full.resolve_left normal
    have bits : m.log2 + 1 ≠ 53 := by
      have short := (Nat.log2_lt pos.ne').2 (Nat.lt_of_not_le normal)
      omega
    have packed : UnpackedFloat.pack Format.binary64 (.finite s m e pos) =
        packComponents Format.binary64 s 0#11 (BitVec.ofNat 52 m) := by
      unfold UnpackedFloat.pack
      exact (if_neg room).trans (if_neg bits)
    subst lowest
    exact (congrArg _ packed).trans (unpack_subnormal pos (Nat.lt_of_not_le normal))

/-- Unpacked numbers are canonical. -/
theorem canonical_of_unpack {f : Float.Model} {pos : 0 < m} (h : f.unpack = .finite s m e pos) :
    IsCanonical m e ∧ e ≤ 971 := by
  have mantissa_lt : (@unpackMantissa Format.binary64 f.toBits.toBitVec).toNat < 2 ^ 52 :=
    BitVec.isLt _
  have exponent_lt : (@unpackExponent Format.binary64 f.toBits.toBitVec).toNat < 2 ^ 11 :=
    BitVec.isLt _
  simp only [Float.Model.unpack, UnpackedFloat.unpack] at h
  split at h
  · split at h <;> cases h
  · rename_i notTop
    have top : (@unpackExponent Format.binary64 f.toBits.toBitVec).toNat ≠ 2047 := by
      intro full
      exact notTop (BitVec.eq_of_toNat_eq full)
    split at h
    · rename_i zero
      split at h
      · cases h
      · injection h with _ mantissa exponent
        rw [zero] at exponent
        have lowest : e = -1074 := exponent.symm
        exact ⟨⟨by omega, by omega, Or.inr lowest⟩, by omega⟩
    · rename_i nonzero
      have positive : (@unpackExponent Format.binary64 f.toBits.toBitVec).toNat ≠ 0 := by
        intro empty
        exact nonzero (BitVec.eq_of_toNat_eq empty)
      injection h with _ mantissa exponent
      rw [toNat_implicit] at mantissa
      have biased : ((@unpackExponent Format.binary64 f.toBits.toBitVec).toNat : ℤ) -
          (1023 + 52) = e := exponent
      exact ⟨⟨by omega, by omega, Or.inl (by omega)⟩, by omega⟩

/-! ## Shifting and rounding -/

theorem mantissa_shiftRight (x : ExtendedMantissa) (k : ℕ) :
    (x >>> k).mantissa = x.mantissa / 2 ^ k := by
  induction k with
  | zero =>
    rw [pow_zero, Nat.div_one]
    rfl
  | succ k ih =>
    have step : (x >>> (k + 1)).mantissa = (x >>> k).mantissa / 2 := rfl
    rw [step, ih, Nat.div_div_eq_div_mul, pow_succ]

theorem roundedMantissa_bounds (x : ExtendedMantissa) :
    x.mantissa ≤ x.roundedMantissa ∧ x.roundedMantissa ≤ x.mantissa + 1 := by
  obtain ⟨mantissa, half, rest⟩ := x
  cases half <;> cases rest <;>
    simp only [ExtendedMantissa.roundedMantissa, ExtendedMantissa.accuracy,
      Accuracy.roundToNearestEven] <;> omega

/-- The exponent of the unit to which a number is rounded. -/
def unitExponent (m : ℕ) (e : ℤ) : ℤ :=
  Format.binary64.targetExponent (totalExponent m e)

theorem unitExponent_eq (m : ℕ) (e : ℤ) :
    unitExponent m e = Max.max ((m.log2 : ℤ) + e - 52) (-1074) := by
  simp only [unitExponent, Format.targetExponent, totalExponent, Format.mantissaBits,
    Format.minExponent]
  omega

/-- The digits above the unit of a number. -/
def unitsOf (m : ℕ) (e : ℤ) : ℕ :=
  m / 2 ^ (unitExponent m e - e).toNat

theorem unitsOf_lt (m : ℕ) (e : ℤ) : unitsOf m e < 2 ^ 53 := by
  have shift : m.log2 + 1 ≤ 53 + (unitExponent m e - e).toNat := by
    rw [unitExponent_eq]
    omega
  rw [unitsOf, Nat.div_lt_iff_lt_mul (by positivity), ← pow_add]
  calc m < 2 ^ (m.log2 + 1) := Nat.lt_log2_self
    _ ≤ 2 ^ (53 + (unitExponent m e - e).toNat) := Nat.pow_le_pow_right (by omega) shift

/-- A number keeps 53 digits unless its unit is the smallest. -/
theorem le_unitsOf (ready : e ≤ unitExponent m e) :
    2 ^ 52 ≤ unitsOf m e ∨ unitExponent m e = -1074 := by
  by_cases lowest : unitExponent m e = -1074
  · exact Or.inr lowest
  · left
    have shift : 52 + (unitExponent m e - e).toNat ≤ m.log2 := by
      rw [unitExponent_eq] at ready lowest ⊢
      omega
    have nonzero : m ≠ 0 := by
      rintro rfl
      rw [Nat.log2_zero] at shift
      omega
    rw [unitsOf, Nat.le_div_iff_mul_le (by positivity), ← pow_add]
    calc 2 ^ (52 + (unitExponent m e - e).toNat) ≤ 2 ^ m.log2 :=
          Nat.pow_le_pow_right (by omega) shift
      _ ≤ m := Nat.log2_self_le nonzero

/-- The unit holds all the digits below it. -/
theorem two_pow_mul_unit (ready : e ≤ unitExponent m e) :
    (2 : ℚ) ^ (unitExponent m e - e).toNat * 2 ^ e = 2 ^ unitExponent m e := by
  rw [← zpow_natCast, ← zpow_add₀ (by norm_num)]
  congr 1
  omega

theorem unitsOf_le (ready : e ≤ unitExponent m e) :
    (unitsOf m e : ℚ) * 2 ^ unitExponent m e ≤ m * 2 ^ e := by
  have whole : unitsOf m e * 2 ^ (unitExponent m e - e).toNat ≤ m := Nat.div_mul_le_self _ _
  rw [← two_pow_mul_unit ready, ← mul_assoc]
  gcongr
  exact_mod_cast whole

theorem le_succ_unitsOf (ready : e ≤ unitExponent m e) :
    ((m : ℚ) + 1) * 2 ^ e ≤ (unitsOf m e + 1) * 2 ^ unitExponent m e := by
  have whole : m + 1 ≤ (unitsOf m e + 1) * 2 ^ (unitExponent m e - e).toNat := by
    rw [mul_comm]
    exact Nat.lt_mul_div_succ m (by positivity)
  rw [← two_pow_mul_unit ready, ← mul_assoc]
  gcongr
  exact_mod_cast whole

theorem shift_of_fits (lt : m < 2 ^ 53) (le : -1074 ≤ e) :
    shiftToTargetExponent Format.binary64 m e .exact = (⟨m, false, false⟩, e) := by
  have short : m.log2 ≤ 52 := by
    by_cases zero : m = 0
    · rw [zero]
      decide
    · have bits := (Nat.log2_lt zero).2 lt
      omega
  have still : (unitExponent m e - e).toNat = 0 := by
    rw [unitExponent_eq]
    omega
  have shifted : shiftToTargetExponent Format.binary64 m e .exact =
      (ExtendedMantissa.ofMantissaAndAccuracy m .exact >>> (unitExponent m e - e).toNat,
        e + (unitExponent m e - e).toNat) := rfl
  rw [shifted, still]
  exact Prod.ext rfl (add_zero e)

theorem shift_of_carry (le : -1074 ≤ e) :
    shiftToTargetExponent Format.binary64 (2 ^ 53) e .exact =
      (⟨2 ^ 52, false, false⟩, e + 1) := by
  have once : (unitExponent (2 ^ 53) e - e).toNat = 1 := by
    rw [unitExponent_eq, Nat.log2_two_pow]
    omega
  have shifted : shiftToTargetExponent Format.binary64 (2 ^ 53) e .exact =
      (ExtendedMantissa.ofMantissaAndAccuracy (2 ^ 53) .exact >>>
          (unitExponent (2 ^ 53) e - e).toNat,
        e + (unitExponent (2 ^ 53) e - e).toNat) := rfl
  rw [shifted, once]
  rfl

/-- The first shift brings a number to its unit. -/
theorem shiftToTargetExponent_eq (accuracy : Accuracy) (ready : e ≤ unitExponent m e) :
    ∃ x : ExtendedMantissa, shiftToTargetExponent Format.binary64 m e accuracy =
        (x, unitExponent m e) ∧ x.mantissa = unitsOf m e ∧
      (accuracy = .exact → unitExponent m e = e → x.roundedMantissa = m) := by
  have shifted : shiftToTargetExponent Format.binary64 m e accuracy =
      (ExtendedMantissa.ofMantissaAndAccuracy m accuracy >>> (unitExponent m e - e).toNat,
        e + (unitExponent m e - e).toNat) := rfl
  refine ⟨_, shifted.trans (Prod.ext rfl ?_), ?_, ?_⟩
  · change e + ((unitExponent m e - e).toNat : ℤ) = unitExponent m e
    omega
  · rw [mantissa_shiftRight, unitsOf]
    cases accuracy with
    | exact => rfl
    | inexact place => cases place <;> rfl
  · intro exact still
    rw [exact, still, sub_self]
    rfl

/-- Rounding leaves a whole number of units, next to the digits above the unit. -/
theorem roundWithAccuracy_cases (s : Sign) (accuracy : Accuracy)
    (ready : e ≤ unitExponent m e) :
    ∃ r : ℕ, unitsOf m e ≤ r ∧ r ≤ unitsOf m e + 1 ∧
      (accuracy = .exact → unitExponent m e = e → r = m) ∧
      ((r = 0 ∧ roundWithAccuracy Format.binary64 s m e accuracy = .zero s) ∨
        ∃ (m' : ℕ) (e' : ℤ) (pos' : 0 < m'),
          roundWithAccuracy Format.binary64 s m e accuracy = .finite s m' e' pos' ∧
            IsCanonical m' e' ∧ (m' : ℚ) * 2 ^ e' = r * 2 ^ unitExponent m e) := by
  obtain ⟨x, first, units, exact⟩ := shiftToTargetExponent_eq accuracy ready
  have lowest : -1074 ≤ unitExponent m e := by
    rw [unitExponent_eq]
    exact le_max_right _ _
  obtain ⟨below, above⟩ := roundedMantissa_bounds x
  rw [units] at below above
  refine ⟨x.roundedMantissa, below, above, exact, ?_⟩
  have small := unitsOf_lt m e
  by_cases carry : x.roundedMantissa = 2 ^ 53
  · right
    refine ⟨2 ^ 52, unitExponent m e + 1, by norm_num, ?_,
      ⟨by norm_num, by omega, Or.inl le_rfl⟩, ?_⟩
    · rw [roundWithAccuracy, first]
      dsimp only
      rw [carry, shift_of_carry lowest]
      rfl
    · rw [carry, zpow_add₀ (by norm_num), zpow_one]
      push_cast
      ring
  · have fits : x.roundedMantissa < 2 ^ 53 := by omega
    by_cases zero : x.roundedMantissa = 0
    · left
      refine ⟨zero, ?_⟩
      rw [roundWithAccuracy, first]
      dsimp only
      rw [shift_of_fits fits lowest]
      exact dif_pos zero
    · right
      refine ⟨x.roundedMantissa, unitExponent m e, Nat.pos_of_ne_zero zero, ?_,
        ⟨fits, lowest, ?_⟩, rfl⟩
      · rw [roundWithAccuracy, first]
        dsimp only
        rw [shift_of_fits fits lowest]
        exact dif_neg zero
      · exact (le_unitsOf ready).imp_left fun full ↦ full.trans below

end TradingDesk.Binary64
