import TradingDesk.Decimal.Binary
import TradingDesk.Proofs.Binary64.Order
import TradingDesk.Proofs.Binary64.Parts
import TradingDesk.Proofs.Decimal.Value

/-!
# Decimals of Floating-Point Numbers

A floating-point number is scaled by powers of ten without becoming larger.  Digits beyond 28 places
are then rounded off, which adds less than one in the 28th place, and digits beyond 52 bits, which
adds less than one part in 8 * 10 ^ 14.  Each digit that is rounded off adds at most five of its
units, so that all of them add less than one unit of the last digit kept.

Rounding never passes a whole number, so that a share of at most one becomes a decimal of at most
one and zero becomes zero.
-/

namespace TradingDesk.Decimal

variable {m scale count : ℕ} {e : ℤ}

/-! ## Powers of two as powers of ten -/

/-- The number that a mantissa and a power of ten stand for. -/
def Scaled.value (s : Scaled) : ℚ :=
  s.mantissa * 10 ^ s.exponent

/-- Halvings stand for fives of tenths, so that they never make a number larger. -/
theorem Scaled.value_halvings_le (s : Scaled) (count : ℕ) :
    (s.halvings count).value ≤ s.value * 5 ^ count := by
  induction count generalizing s with
  | zero => rw [pow_zero, mul_one]; exact le_rfl
  | succ count ih =>
    unfold Scaled.halvings
    split
    · apply (ih _).trans_eq
      simp only [Scaled.value, Nat.cast_mul, Nat.cast_ofNat]
      ring
    · apply (ih _).trans
      have half : ((s.mantissa / 2 : ℕ) : ℚ) ≤ s.mantissa / 2 := Nat.cast_div_le
      calc ((s.mantissa / 2 : ℕ) : ℚ) * 10 ^ (s.exponent + 1) * 5 ^ count
          ≤ s.mantissa / 2 * 10 ^ (s.exponent + 1) * 5 ^ count := by gcongr
        _ = s.mantissa * 10 ^ s.exponent * 5 ^ (count + 1) := by
          rw [zpow_add_one₀ (by norm_num)]
          ring

/-- Doublings stand for tens of fifths, so that they never make a number larger. -/
theorem Scaled.value_doublings?_le {s r : Scaled} (h : s.doublings? count = some r) :
    r.value * 5 ^ count ≤ s.value := by
  induction count generalizing s with
  | zero =>
    cases h
    rw [pow_zero, mul_one]
  | succ count ih =>
    unfold Scaled.doublings? at h
    have step : ∀ t : Scaled, t.value * 5 ≤ s.value → t.doublings? count = some r →
        r.value * 5 ^ (count + 1) ≤ s.value := by
      intro t smaller rest
      calc r.value * 5 ^ (count + 1) = r.value * 5 ^ count * 5 := by ring
        _ ≤ t.value * 5 := by
          gcongr
          exact ih rest
        _ ≤ s.value := smaller
    split at h
    · refine step _ (le_of_eq ?_) h
      simp only [Scaled.value, Nat.cast_mul, Nat.cast_ofNat]
      rw [zpow_sub_one₀ (by norm_num)]
      ring
    · split at h
      · cases h
      · refine step _ ?_ h
        have fifth : ((s.mantissa / 5 : ℕ) : ℚ) ≤ s.mantissa / 5 := Nat.cast_div_le
        calc ((s.mantissa / 5 : ℕ) : ℚ) * 10 ^ s.exponent * 5
            ≤ s.mantissa / 5 * 10 ^ s.exponent * 5 := by gcongr
          _ = s.mantissa * 10 ^ s.exponent := by ring

theorem raiseTens?_eq {r : ℕ} (h : raiseTens? m count = some r) : r = m * 10 ^ count := by
  induction count generalizing m with
  | zero =>
    cases h
    rw [pow_zero, mul_one]
  | succ count ih =>
    unfold raiseTens? at h
    split at h
    · rw [ih h, pow_succ]
      ring
    · cases h

/-! ## Digits rounded off -/

theorem dropHalfUp_bounds (m : ℕ) : 10 * dropHalfUp m ≤ m + 5 ∧ m ≤ 10 * dropHalfUp m + 4 := by
  unfold dropHalfUp
  split <;> omega

theorem dropHalfUp_le {n : ℕ} (h : m ≤ 10 * n) : dropHalfUp m ≤ n := by
  have above := (dropHalfUp_bounds m).1
  omega

/-- The number that a mantissa and a scale stand for. -/
def fraction (r : ℕ × ℕ) : ℚ :=
  r.1 / 10 ^ r.2

/-- A digit that is rounded off adds at most five of its units, which is the part of five ninths by
which the unit grows. -/
theorem fraction_dropHalfUp_le (m scale : ℕ) (unit : ℚ) :
    fraction (dropHalfUp m, scale) + 5 / 9 * (unit - 1 / 10 ^ scale) ≤
      fraction (m, scale + 1) + 5 / 9 * (unit - 1 / 10 ^ (scale + 1)) := by
  have above : (10 * dropHalfUp m : ℚ) ≤ m + 5 := by exact_mod_cast (dropHalfUp_bounds m).1
  have digit : (dropHalfUp m : ℚ) / 10 ^ scale ≤
      m / 10 ^ (scale + 1) + 5 * (1 / 10 ^ (scale + 1)) := by
    rw [mul_one_div, ← add_div, pow_succ, div_le_div_iff₀ (by positivity) (by positivity)]
    have power : (0 : ℚ) < 10 ^ scale := by positivity
    nlinarith
  have tenth : (1 : ℚ) / 10 ^ scale = 10 * (1 / 10 ^ (scale + 1)) := by
    rw [pow_succ]
    field_simp
  simp only [fraction]
  rw [tenth]
  linarith

theorem fraction_dropExcess_le (m scale count : ℕ) (short : count ≤ scale) :
    fraction (dropExcess m scale count) ≤
      fraction (m, scale) + 5 / 9 * (1 / 10 ^ (scale - count) - 1 / 10 ^ scale) := by
  induction count generalizing m scale with
  | zero =>
    rw [Nat.sub_zero, sub_self, mul_zero, add_zero]
    exact le_rfl
  | succ count ih =>
    obtain ⟨scale, rfl⟩ := Nat.exists_eq_add_one_of_ne_zero (show scale ≠ 0 by omega)
    have same : scale + 1 - (count + 1) = scale - count := by omega
    rw [same]
    unfold dropExcess
    split
    · have part : (1 : ℚ) / 10 ^ (scale + 1) ≤ 1 / 10 ^ (scale - count) := by
        apply one_div_le_one_div_of_le (by positivity)
        exact pow_le_pow_right₀ (by norm_num) (by omega)
      have whole : (0 : ℚ) ≤ fraction (m, scale + 1) := by
        unfold fraction
        positivity
      have none : fraction (0, 0) = 0 := by norm_num [fraction]
      rw [none]
      linarith
    · exact (ih (dropHalfUp m) scale (by omega)).trans (fraction_dropHalfUp_le m scale _)

theorem fraction_dropToPrecision_le_add (m scale : ℕ) :
    fraction (dropToPrecision m scale) ≤
      fraction (m, scale) + 5 / 9 * (1 / 10 ^ (dropToPrecision m scale).2 - 1 / 10 ^ scale) := by
  induction scale generalizing m with
  | zero => norm_num [dropToPrecision, fraction]
  | succ scale ih =>
    unfold dropToPrecision
    split
    · exact (ih (dropHalfUp m)).trans (fraction_dropHalfUp_le m scale _)
    · rw [sub_self, mul_zero, add_zero]

/-- Digits are rounded off only while 52 bits are full. -/
theorem dropToPrecision_cases (m scale : ℕ) :
    dropToPrecision m scale = (m, scale) ∨ 450359962737049 ≤ (dropToPrecision m scale).1 := by
  induction scale generalizing m with
  | zero => exact Or.inl rfl
  | succ scale ih =>
    unfold dropToPrecision
    split
    · right
      have digits := (dropHalfUp_bounds m).2
      rcases ih (dropHalfUp m) with kept | full
      · rw [kept]
        dsimp only
        omega
      · exact full
    · exact Or.inl rfl

/-- A number that is cut to 52 bits grows by at most a part that 52 bits leave. -/
theorem fraction_dropToPrecision_le (m scale : ℕ) :
    fraction (dropToPrecision m scale) * (1 - 1 / (8 * 10 ^ 14)) ≤ fraction (m, scale) := by
  have nonneg : 0 ≤ fraction (dropToPrecision m scale) := by
    unfold fraction
    positivity
  rcases dropToPrecision_cases m scale with kept | full
  · rw [kept] at nonneg ⊢
    linarith
  · have added := fraction_dropToPrecision_le_add m scale
    have last : (0 : ℚ) ≤ 1 / 10 ^ scale := by positivity
    have digits : (450359962737049 : ℚ) ≤ (dropToPrecision m scale).1 := by exact_mod_cast full
    have unit : 450359962737049 * (1 / 10 ^ (dropToPrecision m scale).2) ≤
        fraction (dropToPrecision m scale) := by
      rw [fraction, mul_one_div]
      gcongr
    linarith

theorem fraction_stripZeros (m scale : ℕ) :
    fraction (stripZeros m scale) = fraction (m, scale) := by
  induction scale generalizing m with
  | zero => rfl
  | succ scale ih =>
    unfold stripZeros
    split
    · rename_i ends
      have whole : ((m / 10 : ℕ) : ℚ) * 10 = m := by
        exact_mod_cast Nat.div_mul_cancel (Nat.dvd_of_mod_eq_zero ends)
      rw [ih, fraction, fraction, ← whole, pow_succ]
      field_simp
    · rfl

/-! ## Whole numbers are not passed -/

theorem dropExcess_le (n : ℕ) (m scale count : ℕ) (short : count ≤ scale)
    (h : m ≤ n * 10 ^ scale) :
    (dropExcess m scale count).1 ≤ n * 10 ^ (dropExcess m scale count).2 := by
  induction count generalizing m scale with
  | zero => exact h
  | succ count ih =>
    obtain ⟨scale, rfl⟩ := Nat.exists_eq_add_one_of_ne_zero (show scale ≠ 0 by omega)
    unfold dropExcess
    split
    · exact Nat.zero_le _
    · apply ih _ _ (by omega)
      apply dropHalfUp_le
      rw [mul_left_comm, ← pow_succ']
      exact h

theorem dropToPrecision_le (n : ℕ) (m scale : ℕ) (h : m ≤ n * 10 ^ scale) :
    (dropToPrecision m scale).1 ≤ n * 10 ^ (dropToPrecision m scale).2 := by
  induction scale generalizing m with
  | zero => exact h
  | succ scale ih =>
    unfold dropToPrecision
    split
    · apply ih
      apply dropHalfUp_le
      rw [mul_left_comm, ← pow_succ']
      exact h
    · exact h

theorem fraction_le_iff (n m scale : ℕ) : fraction (m, scale) ≤ n ↔ m ≤ n * 10 ^ scale := by
  rw [fraction, div_le_iff₀ (by positivity)]
  exact_mod_cast Iff.rfl

/-! ## The decimal of a number -/

/-- The decimal scaling of a binary number. -/
def scaled? (parts : Binary64.Parts) : Option Scaled :=
  let start : Scaled := ⟨parts.mantissa, parts.exponent⟩
  if parts.exponent < 0 then some (start.halvings (-parts.exponent).toNat)
  else start.doublings? parts.exponent.toNat

/-- The digits that are kept of a number with a fraction. -/
def Scaled.digits (s : Scaled) : ℕ × ℕ :=
  let scale := (-s.exponent).toNat
  let cut := dropExcess s.mantissa scale (scale - 28)
  let precise := dropToPrecision cut.1 cut.2
  stripZeros precise.1 precise.2

/-- The decimal of a scaled number. -/
def Scaled.decimal? (negative : Bool) (s : Scaled) : Option Decimal :=
  if 0 ≤ s.exponent then
    (raiseTens? s.mantissa s.exponent.toNat).bind fun m ↦ make? negative m 0
  else
    make? negative s.digits.1 s.digits.2

theorem ofFloat?_eq {x : Float} (finite : x.isFinite) :
    ofFloat? x = (scaled? (Binary64.decompose x)).bind
      (Scaled.decimal? (Binary64.decompose x).negative) := by
  have known : ¬ (!x.isFinite) = true := by
    rw [finite]
    exact Bool.false_ne_true
  unfold ofFloat? scaled?
  rw [if_neg known]
  dsimp only
  split <;> rfl

/-- The decimal scaling of a number does not make it larger. -/
theorem value_scaled?_le {parts : Binary64.Parts} {s : Scaled} (h : scaled? parts = some s) :
    s.value ≤ parts.mantissa * 2 ^ parts.exponent := by
  unfold scaled? at h
  dsimp only at h
  split at h
  · rename_i below
    cases h
    obtain ⟨n, exponent⟩ : ∃ n : ℕ, parts.exponent = -n := ⟨(-parts.exponent).toNat, by omega⟩
    have count : (-parts.exponent).toNat = n := by omega
    rw [count]
    apply (Scaled.value_halvings_le _ n).trans_eq
    simp only [Scaled.value, exponent, zpow_neg, zpow_natCast]
    rw [show (10 : ℚ) = 5 * 2 by norm_num, mul_pow]
    field_simp
  · rename_i above
    obtain ⟨n, exponent⟩ : ∃ n : ℕ, parts.exponent = n := ⟨parts.exponent.toNat, by omega⟩
    have count : parts.exponent.toNat = n := by omega
    have bound := Scaled.value_doublings?_le h
    have start : (⟨parts.mantissa, parts.exponent⟩ : Scaled).value =
        parts.mantissa * 2 ^ n * 5 ^ n := by
      rw [Scaled.value, exponent, zpow_natCast, show (10 : ℚ) = 2 * 5 by norm_num, mul_pow,
        mul_assoc]
    rw [count, start] at bound
    rw [exponent, zpow_natCast]
    exact le_of_mul_le_mul_right bound (by positivity)

/-- The digits kept of a number exceed it by one in the 28th fraction digit and by the part that 52
bits leave, but they never pass a whole number. -/
theorem Scaled.fraction_digits_le {s : Scaled} (below : s.exponent < 0) :
    fraction s.digits * (1 - 1 / (8 * 10 ^ 14)) ≤ s.value + 1 / 10 ^ 28 ∧
      ∀ n : ℕ, s.value ≤ n → fraction s.digits ≤ n := by
  obtain ⟨scale, exponent⟩ : ∃ n : ℕ, s.exponent = -n := ⟨(-s.exponent).toNat, by omega⟩
  have places : (-s.exponent).toNat = scale := by omega
  have start : s.value = fraction (s.mantissa, scale) := by
    rw [Scaled.value, exponent, zpow_neg, zpow_natCast, fraction, div_eq_mul_inv]
  have digits : fraction s.digits = fraction (dropToPrecision
      (dropExcess s.mantissa scale (scale - 28)).1
      (dropExcess s.mantissa scale (scale - 28)).2) := by
    rw [Scaled.digits, places]
    exact fraction_stripZeros _ _
  rw [digits, start]
  have short : scale - 28 ≤ scale := Nat.sub_le _ _
  constructor
  · have cut := fraction_dropExcess_le s.mantissa scale (scale - 28) short
    have precise := fraction_dropToPrecision_le (dropExcess s.mantissa scale (scale - 28)).1
      (dropExcess s.mantissa scale (scale - 28)).2
    have rest : (1 : ℚ) / 10 ^ (scale - (scale - 28)) - 1 / 10 ^ scale ≤ 1 / 10 ^ 28 := by
      by_cases long : 28 ≤ scale
      · have last : (0 : ℚ) ≤ 1 / 10 ^ scale := by positivity
        rw [show scale - (scale - 28) = 28 by omega]
        linarith
      · rw [show scale - (scale - 28) = scale by omega, sub_self]
        positivity
    have whole : (0 : ℚ) ≤ 1 / 10 ^ 28 := by positivity
    linarith
  · intro n large
    rw [fraction_le_iff] at large ⊢
    exact dropToPrecision_le n _ _ (dropExcess_le n _ _ _ short large)

/-- A number that is not negative has a decimal that is not negative either.  The decimal exceeds
the number by one in the 28th fraction digit and by the part that 52 bits leave, but it never passes
a whole number. -/
theorem ofFloat?_bounds {x : Float} {a : ℚ} {d : Decimal} (h : Binary64.HasValue x a)
    (made : ofFloat? x = some d) :
    0 ≤ d.value ∧ d.value * (1 - 1 / (8 * 10 ^ 14)) ≤ a + 1 / 10 ^ 28 ∧
      ∀ n : ℕ, a ≤ n → d.value ≤ n := by
  obtain ⟨value, sign⟩ := Binary64.value_decompose h
  rw [ofFloat?_eq h.isFinite] at made
  obtain ⟨s, scaled, made⟩ := Option.bind_eq_some_iff.1 made
  have bound := value_scaled?_le scaled
  rw [value] at bound
  have parts : ∃ r, make? (Binary64.decompose x).negative r.1 r.2 = some d ∧
      fraction r * (1 - 1 / (8 * 10 ^ 14)) ≤ s.value + 1 / 10 ^ 28 ∧
      ∀ n : ℕ, s.value ≤ n → fraction r ≤ n := by
    unfold Scaled.decimal? at made
    split at made
    · rename_i above
      obtain ⟨m, raised, made⟩ := Option.bind_eq_some_iff.1 made
      obtain ⟨n, exponent⟩ : ∃ n : ℕ, s.exponent = n := ⟨s.exponent.toNat, by omega⟩
      have whole : fraction (m, 0) = s.value := by
        rw [raiseTens?_eq raised, fraction, Scaled.value, exponent, zpow_natCast,
          Int.toNat_natCast]
        norm_num
      have nonneg : 0 ≤ s.value := by
        unfold Scaled.value
        positivity
      refine ⟨(m, 0), made, ?_, ?_⟩
      · rw [whole]
        linarith
      · intro n large
        rw [whole]
        exact large
    · rename_i below
      exact ⟨s.digits, made, Scaled.fraction_digits_le (Int.not_le.1 below)⟩
  obtain ⟨r, made, near, whole⟩ := parts
  have nonneg : 0 ≤ fraction r := by
    unfold fraction
    positivity
  have unsigned : d.value = fraction r := by
    rw [value_of_make? made]
    change withSign _ (fraction r) = _
    cases negative : (Binary64.decompose x).negative with
    | false => rfl
    | true =>
      have zero : fraction r ≤ (0 : ℕ) :=
        whole 0 (by rw [Nat.cast_zero, ← sign negative]; exact bound)
      have none : fraction r = 0 := le_antisymm (zero.trans_eq Nat.cast_zero) nonneg
      rw [none]
      exact neg_zero
  rw [unsigned]
  exact ⟨nonneg, by linarith, fun n large ↦ whole n (bound.trans large)⟩

end TradingDesk.Decimal
