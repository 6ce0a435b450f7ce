import TradingDesk.Binary64.Basic
import TradingDesk.Proofs.Binary64.Order

/-!
# The Parts of a Number

The sign, the mantissa and the exponent that are read from the bits of a finite number are those it
is computed with.  For a number that is not negative they give what it stands for, and only a zero can
have the sign set.
-/

namespace TradingDesk.Binary64

open Float.Model Float.Model.UnpackedFloat

variable {x : Float} {a : ℚ} {m : ℕ} {e : ℤ}

/-- Numbers are the same when their parts are. -/
theorem eq_of_unpack {x y : Float} (h : x.toModel.unpack = y.toModel.unpack) : x = y := by
  have bits := (unpack_inj_of_valid x.toModel.valid y.toModel.valid).1 h
  exact Float.toBits_inj.1 (UInt64.toBitVec_inj.1 bits)

theorem toNat_unpackExponent (x : Float) :
    (@unpackExponent Format.binary64 x.toModel.toBits.toBitVec).toNat =
      x.toBits.toNat / 4503599627370496 % 2048 := by
  unfold unpackExponent
  rw [BitVec.toNat_cast, BitVec.extractLsb_toNat, Nat.shiftRight_eq_div_pow]
  rfl

theorem toNat_unpackMantissa (x : Float) :
    (@unpackMantissa Format.binary64 x.toModel.toBits.toBitVec).toNat =
      x.toBits.toNat % 4503599627370496 := by
  unfold unpackMantissa
  rw [BitVec.toNat_cast, BitVec.extractLsb_toNat, Nat.shiftRight_zero]
  rfl

/-- The sign of a number. -/
def signOf (x : Float) : Sign :=
  if isNegative x then .negative else .positive

theorem ofBitVec_unpackSign (x : Float) :
    Sign.ofBitVec (@unpackSign Format.binary64 x.toModel.toBits.toBitVec) = signOf x := by
  have bit : (@unpackSign Format.binary64 x.toModel.toBits.toBitVec).toNat =
      (x.toBits >>> 63).toNat := by
    unfold unpackSign
    rw [BitVec.toNat_cast, BitVec.extractLsb_toNat, UInt64.toNat_shiftRight]
    change x.toBits.toNat >>> 63 % 2 = x.toBits.toNat >>> 63
    have bound := x.toBits.toNat_lt
    rw [Nat.shiftRight_eq_div_pow]
    omega
  have zero : @unpackSign Format.binary64 x.toModel.toBits.toBitVec = 0#1 ↔
      (x.toBits >>> 63).toNat = 0 := by
    rw [← bit, BitVec.toNat_eq]
    rfl
  have one : isNegative x = true ↔ (x.toBits >>> 63).toNat = 1 := by
    rw [isNegative, beq_iff_eq, ← UInt64.toNat_inj]
    rfl
  have bound : (x.toBits >>> 63).toNat < 2 := by
    rw [← bit]
    exact BitVec.isLt _
  unfold Sign.ofBitVec signOf
  by_cases negative : isNegative x = true
  · rw [if_pos negative, if_neg]
    rw [zero]
    rw [one] at negative
    omega
  · rw [if_neg negative, if_pos]
    rw [zero]
    rw [one] at negative
    omega

theorem negative_decompose (x : Float) : (decompose x).negative = isNegative x := by
  unfold decompose
  dsimp only
  split <;> rfl

/-- A finite number is unpacked into its parts. -/
theorem unpack_of_isFinite (finite : x.isFinite) :
    x.toModel.unpack =
      if h : (decompose x).mantissa = 0 then .zero (signOf x)
      else .finite (signOf x) (decompose x).mantissa (decompose x).exponent
        (Nat.pos_of_ne_zero h) := by
  have exponent := toNat_unpackExponent x
  have fraction := toNat_unpackMantissa x
  have finite' : x.toModel.unpack.isFinite := finite
  unfold Float.Model.unpack UnpackedFloat.unpack at finite' ⊢
  dsimp only at finite' ⊢
  rw [ofBitVec_unpackSign x] at finite' ⊢
  split at finite'
  · split at finite' <;> cases finite'
  · rename_i notTop
    rw [if_neg notTop]
    by_cases lowest : @unpackExponent Format.binary64 x.toModel.toBits.toBitVec = 0#11
    · have biased : x.toBits.toNat / 4503599627370496 % 2048 = 0 := by
        rw [← exponent, lowest]
        rfl
      have parts : decompose x =
          ⟨isNegative x, x.toBits.toNat % 4503599627370496, -1074⟩ := if_pos biased
      rw [if_pos lowest]
      simp only [parts, ← fraction]
      by_cases empty : @unpackMantissa Format.binary64 x.toModel.toBits.toBitVec = 0#52
      · rw [dif_pos empty, dif_pos (by rw [empty]; rfl)]
      · rw [dif_neg empty, dif_neg]
        · congr 1
          rw [lowest]
          rfl
        · intro zero
          exact empty (BitVec.eq_of_toNat_eq zero)
    · have biased : x.toBits.toNat / 4503599627370496 % 2048 ≠ 0 := by
        rw [← exponent]
        intro zero
        exact lowest (BitVec.eq_of_toNat_eq zero)
      have parts : decompose x =
          ⟨isNegative x, x.toBits.toNat % 4503599627370496 + 4503599627370496,
            ((x.toBits.toNat / 4503599627370496 % 2048 : ℕ) : ℤ) - 1075⟩ := if_neg biased
      rw [if_neg lowest]
      simp only [parts, ← fraction, ← exponent]
      rw [dif_neg (by omega)]
      congr 1
      rw [toNat_implicit, add_comm]
      rfl

theorem decompose_of_unpack {s : Sign} {pos : 0 < m}
    (h : x.toModel.unpack = .finite s m e pos) :
    (decompose x).mantissa = m ∧ (decompose x).exponent = e ∧ signOf x = s := by
  have finite : x.isFinite := by
    change x.toModel.unpack.isFinite
    rw [h]
    rfl
  rw [unpack_of_isFinite finite] at h
  split at h
  · cases h
  · injection h with sign mantissa exponent
    exact ⟨mantissa, exponent, sign⟩

/-- The parts of a number that is not negative give its value, and only a zero has a sign. -/
theorem value_decompose (h : HasValue x a) :
    ((decompose x).mantissa : ℚ) * 2 ^ (decompose x).exponent = a ∧
      ((decompose x).negative = true → a = 0) := by
  have unpacked := unpack_of_isFinite h.isFinite
  unfold HasValue at h
  rw [unpacked] at h
  rw [negative_decompose]
  split at h
  · rename_i empty
    cases h
    rw [empty, Nat.cast_zero, zero_mul]
    exact ⟨rfl, fun _ ↦ rfl⟩
  · generalize sign : signOf x = s at h
    cases h
    refine ⟨rfl, fun negative ↦ ?_⟩
    rw [signOf, if_pos negative] at sign
    cases sign

/-! ## Signs -/

theorem unpack_abs {s : Sign} {pos : 0 < m} (h : x.toModel.unpack = .finite s m e pos) :
    x.abs.toModel.unpack = .finite .positive m e pos := by
  obtain ⟨canonical, fits⟩ := canonical_of_unpack h
  change (Float.Model.pack x.toModel.unpack.abs).unpack = _
  rw [h]
  exact unpack_pack_finite pos canonical fits

/-- A number is its absolute value with its sign. -/
theorem withSign_abs {s : Sign} {pos : 0 < m} (h : x.toModel.unpack = .finite s m e pos) :
    (if isNegative x then -x.abs else x.abs) = x := by
  obtain ⟨canonical, fits⟩ := canonical_of_unpack h
  obtain ⟨-, -, sign⟩ := decompose_of_unpack h
  apply eq_of_unpack
  rw [h, ← sign, signOf]
  split
  · change (Float.Model.pack x.abs.toModel.unpack.neg).unpack = _
    rw [unpack_abs h]
    exact unpack_pack_finite pos canonical fits
  · exact unpack_abs h

/-- Only the zeros equal zero. -/
theorem beq_zero_iff (finite : x.isFinite) :
    (x == 0.0) = true ↔ x.toModel.unpack = .zero (signOf x) := by
  have compared : (x == 0.0) = UnpackedFloat.beq x.toModel.unpack (.zero .positive) := rfl
  rw [compared, unpack_of_isFinite finite]
  split
  · cases signOf x <;> exact ⟨fun _ ↦ rfl, fun _ ↦ rfl⟩
  · cases signOf x <;> simp [UnpackedFloat.beq, UnpackedFloat.compare]

end TradingDesk.Binary64
