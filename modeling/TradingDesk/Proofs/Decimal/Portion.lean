import TradingDesk.Proofs.Decimal.Value

/-!
# Portions of Amounts

An amount that is not negative is divided by multiplying it with shares, taking parts away and
cutting what is left to fraction digits.  None of these makes an amount negative, truncation never
makes it larger, and a share of at most one never takes more than the amount.  A product can exceed
the exact one by the precision of decimals, and so can a difference, but for a part of it only.

A share of at most one is always in range.  It is rounded to zero exactly when it is at most half of
the last possible digit, so a smaller share of the amount is then zero as well.
-/

namespace TradingDesk

/-- Rounding a quotient does not pass a whole number. -/
theorem nearestEven_le_of_le_mul {n d q : ℕ} (pos : 0 < d) (h : n ≤ q * d) :
    nearestEven n d ≤ q := by
  have split := Nat.div_add_mod n d
  by_cases whole : n = q * d
  · have digits : n / d = q := Nat.div_eq_of_eq_mul_left pos whole
    have rest : n % d = 0 := by
      rw [whole]
      exact Nat.mul_mod_left q d
    unfold nearestEven
    dsimp only
    rw [rest, if_pos (Or.inl (by omega))]
    exact digits.le
  · have below : n / d < q := (Nat.div_lt_iff_lt_mul pos).2 (lt_of_le_of_ne h whole)
    exact (nearestEven_le_succ n d).trans below

/-- A quotient is rounded to zero exactly when it is at most a half. -/
theorem nearestEven_eq_zero_iff {n d : ℕ} (pos : 0 < d) : nearestEven n d = 0 ↔ 2 * n ≤ d := by
  have split := Nat.div_add_mod n d
  have small := Nat.mod_lt n pos
  unfold nearestEven
  dsimp only
  by_cases short : n < d
  · rw [Nat.div_eq_of_lt short, Nat.mod_eq_of_lt short]
    split <;> omega
  · have whole : 0 < n / d := Nat.div_pos (Nat.le_of_not_lt short) pos
    split <;> omega

namespace Decimal

variable {a b c d : Decimal}

/-- An amount that is not negative is its mantissa at its scale. -/
theorem value_of_nonneg (nonneg : 0 ≤ d.value) : d.value = d.mantissa / 10 ^ d.scale := by
  rw [← abs_value, abs_of_nonneg nonneg]

/-! ## Truncation -/

theorem value_truncate (nonneg : 0 ≤ d.value) (digits : ℕ) :
    ∃ n : ℕ, (d.truncate digits).value = n / 10 ^ digits ∧ (d.truncate digits).value ≤ d.value := by
  unfold truncate
  split
  · rename_i deeper
    refine ⟨d.mantissa / tens (d.scale - digits), ?_⟩
    have whole : d.mantissa / tens (d.scale - digits) * tens (d.scale - digits) ≤ d.mantissa :=
      Nat.div_mul_le_self _ _
    have whole : ((d.mantissa / tens (d.scale - digits) : ℕ) : ℚ) * 10 ^ (d.scale - digits) ≤
        d.mantissa := by
      rw [← cast_tens]
      exact_mod_cast whole
    have cut : ((d.mantissa / tens (d.scale - digits) : ℕ) : ℚ) / 10 ^ digits ≤ d.value := by
      rw [value_of_nonneg nonneg, div_le_div_iff₀ (by positivity) (by positivity)]
      have power : (10 : ℚ) ^ d.scale = 10 ^ (d.scale - digits) * 10 ^ digits := by
        rw [← pow_add, Nat.sub_add_cancel deeper.le]
      rw [power, ← mul_assoc]
      gcongr
    have unsigned : withSign d.negative
        (((d.mantissa / tens (d.scale - digits) : ℕ) : ℚ) / 10 ^ digits) =
          ((d.mantissa / tens (d.scale - digits) : ℕ) : ℚ) / 10 ^ digits := by
      by_cases empty : d.isZero = true
      · have zero : d.mantissa = 0 := by simpa [isZero] using empty
        rw [zero, Nat.zero_div, Nat.cast_zero, zero_div]
        cases d.negative <;> simp [withSign]
      · rw [not_negative_of_nonneg nonneg empty]
        rfl
    rw [value_eq_withSign]
    dsimp only
    rw [withSign_of_zero, unsigned]
    exact ⟨rfl, cut⟩
  · rename_i short
    have scale : d.scale ≤ digits := Nat.le_of_not_lt short
    refine ⟨d.mantissa * 10 ^ (digits - d.scale), ?_, le_rfl⟩
    rw [value_of_nonneg nonneg, div_eq_div_iff (by positivity) (by positivity)]
    push_cast
    rw [mul_assoc, ← pow_add, Nat.sub_add_cancel scale]

theorem truncate_nonneg (nonneg : 0 ≤ d.value) (digits : ℕ) : 0 ≤ (d.truncate digits).value := by
  obtain ⟨n, value, -⟩ := value_truncate nonneg digits
  rw [value]
  positivity

theorem truncate_le (nonneg : 0 ≤ d.value) (digits : ℕ) : (d.truncate digits).value ≤ d.value :=
  (value_truncate nonneg digits).choose_spec.2

/-! ## Products -/

/-- What a product of amounts that are not negative is. -/
theorem mul?_cases (ha : 0 ≤ a.value) (hb : 0 ≤ b.value) (h : mul? a b = some c) :
    c.value = 0 ∨ fit false (a.mantissa * b.mantissa) 0 (a.scale + b.scale) = some c := by
  unfold mul? at h
  split at h
  · cases h
    exact Or.inl value_zero
  · rename_i full
    have nonzero : ¬ a.isZero = true ∧ ¬ b.isZero = true := by
      rw [Bool.or_eq_true, not_or] at full
      exact full
    dsimp only at h
    split at h
    · cases h
      exact Or.inl value_zero
    · rw [not_negative_of_nonneg ha nonzero.1, not_negative_of_nonneg hb nonzero.2] at h
      exact Or.inr h

theorem mul?_nonneg (ha : 0 ≤ a.value) (hb : 0 ≤ b.value) (h : mul? a b = some c) :
    0 ≤ c.value := by
  rcases mul?_cases ha hb h with zero | fitted
  · exact zero.ge
  · obtain ⟨k, -, -, made, -⟩ := fit_eq_some fitted
    rw [value_of_make? made]
    change 0 ≤ ((nearestEven _ _ : ℕ) : ℚ) / 10 ^ c.scale
    positivity

/-- A product exceeds the exact one by the precision of decimals at most. -/
theorem mul?_le (ha : 0 ≤ a.value) (hb : 0 ≤ b.value) (h : mul? a b = some c) :
    c.value * (1 - 1 / 10 ^ 27) ≤ a.value * b.value + 1 / 10 ^ 28 := by
  have near : c.Approximates (a.value * b.value) := mul?_approximates h
  have nonneg := mul?_nonneg ha hb h
  have above := (le_abs_self _).trans near
  rw [abs_of_nonneg nonneg] at above
  have most :
      Max.max ((1 : ℚ) / 10 ^ 28) (c.value / 10 ^ 27) ≤ 1 / 10 ^ 28 + c.value / 10 ^ 27 := by
    apply max_le
    · have part : 0 ≤ c.value / 10 ^ 27 := by positivity
      linarith
    · have part : (0 : ℚ) ≤ 1 / 10 ^ 28 := by positivity
      linarith
  linarith

theorem mantissa_le_of_share (nonneg : 0 ≤ b.value) (share : b.value ≤ 1) :
    b.mantissa ≤ 10 ^ b.scale := by
  rw [value_of_nonneg nonneg, div_le_one (by positivity)] at share
  exact_mod_cast share

/-- A share of at most one keeps the digits of the amount. -/
theorem scale_le_of_fit (small : b.mantissa ≤ 10 ^ b.scale)
    (fitted : fit false (a.mantissa * b.mantissa) 0 (a.scale + b.scale) = some c) :
    a.scale ≤ c.scale := by
  obtain ⟨k, -, total, -, fewest⟩ := fit_eq_some fitted
  by_contra shallow
  have long : limit96 ≤ nearestEven (a.mantissa * b.mantissa) (tens (k - 1)) := by
    have limit := a.scale_le
    have dropped : 0 + (a.scale + b.scale) = a.scale + b.scale := Nat.zero_add _
    exact (fewest.resolve_left (by omega)).resolve_left (by omega)
  have short : nearestEven (a.mantissa * b.mantissa) (tens (k - 1)) ≤ a.mantissa := by
    apply nearestEven_le_of_le_mul (tens_pos _)
    apply (Nat.mul_le_mul_left _ small).trans
    exact Nat.mul_le_mul_left _ (Nat.pow_le_pow_right (by decide) (by omega))
  exact absurd a.mantissa_lt (Nat.not_lt.2 (long.trans short))

/-- A share of at most one takes no more than the amount. -/
theorem mul?_le_left (ha : 0 ≤ a.value) (hb : 0 ≤ b.value) (share : b.value ≤ 1)
    (h : mul? a b = some c) : c.value ≤ a.value := by
  rcases mul?_cases ha hb h with zero | fitted
  · rw [zero]
    exact ha
  · have small := mantissa_le_of_share hb share
    have deep := scale_le_of_fit small fitted
    obtain ⟨k, -, total, made, -⟩ := fit_eq_some fitted
    have digits : a.mantissa * b.mantissa ≤ a.mantissa * 10 ^ b.scale :=
      Nat.mul_le_mul_left _ small
    have rounded : nearestEven (a.mantissa * b.mantissa) (tens k) ≤
        a.mantissa * 10 ^ (c.scale - a.scale) := by
      apply nearestEven_le_of_le_mul (tens_pos _)
      apply digits.trans_eq
      change _ = a.mantissa * 10 ^ (c.scale - a.scale) * 10 ^ k
      rw [mul_assoc, ← pow_add]
      congr 2
      omega
    have rounded : ((nearestEven (a.mantissa * b.mantissa) (tens k) : ℕ) : ℚ) ≤
        a.mantissa * 10 ^ (c.scale - a.scale) := by
      exact_mod_cast rounded
    rw [value_of_make? made, value_of_nonneg ha]
    change ((nearestEven (a.mantissa * b.mantissa) (tens k) : ℕ) : ℚ) / 10 ^ c.scale ≤ _
    calc ((nearestEven (a.mantissa * b.mantissa) (tens k) : ℕ) : ℚ) / 10 ^ c.scale
        ≤ a.mantissa * 10 ^ (c.scale - a.scale) / 10 ^ c.scale := by gcongr
      _ = a.mantissa / 10 ^ a.scale := by
        rw [div_eq_div_iff (by positivity) (by positivity), mul_assoc, ← pow_add,
          Nat.sub_add_cancel deep]

/-- A share falls short of the exact one by the precision of decimals at most. -/
theorem le_mul? (ha : 0 ≤ a.value) (hb : 0 ≤ b.value) (share : b.value ≤ 1)
    (h : mul? a b = some c) :
    a.value * b.value ≤ c.value + a.value / 10 ^ 27 + 1 / 10 ^ 28 := by
  have near : c.Approximates (a.value * b.value) := mul?_approximates h
  have nonneg := mul?_nonneg ha hb h
  have most := mul?_le_left ha hb share h
  rw [Approximates, abs_of_nonneg nonneg] at near
  have precise : Max.max ((1 : ℚ) / 10 ^ 28) (c.value / 10 ^ 27) ≤
      a.value / 10 ^ 27 + 1 / 10 ^ 28 := by
    apply max_le
    · have part : 0 ≤ a.value / 10 ^ 27 := by positivity
      linarith
    · have part : (0 : ℚ) ≤ 1 / 10 ^ 28 := by positivity
      linarith
  linarith [(abs_le.1 near).1]

/-! ## Products that vanish -/

/-- What fits is zero exactly when the exact number is at most half of the last possible digit. -/
theorem fit_value_eq_zero_iff {negative : Bool} {magnitude scale : ℕ}
    (h : fit negative magnitude 0 scale = some d) :
    d.value = 0 ↔ 2 * magnitude * 10 ^ 28 ≤ 10 ^ scale := by
  obtain ⟨k, -, total, made, fewest⟩ := fit_eq_some h
  have mantissa : d.value = 0 ↔ 2 * magnitude ≤ tens k := by
    rw [← isZero_iff, isZero, beq_iff_eq, (make?_eq_some made).1,
      nearestEven_eq_zero_iff (tens_pos k)]
  have power : 10 ^ scale = tens k * 10 ^ d.scale := by
    change 10 ^ scale = 10 ^ k * 10 ^ d.scale
    rw [← pow_add, total, Nat.zero_add]
  rw [mantissa, power]
  constructor
  · intro small
    -- a rounded mantissa of zero leaves room for all digits that a decimal can have
    have deep : magnitude = 0 ∨ d.scale = 28 := by
      rcases fewest with whole | deep | long
      · rw [whole, tens_zero] at small
        exact Or.inl (by omega)
      · exact Or.inr (Nat.le_antisymm d.scale_le deep)
      · rcases Nat.eq_zero_or_pos k with none | some
        · rw [none, tens_zero] at small
          exact Or.inl (by omega)
        · have many := le_nearestEven_of_le some long
          rw [(nearestEven_eq_zero_iff (tens_pos k)).2 small] at many
          exact absurd many (by norm_num)
    rcases deep with empty | deep
    · rw [empty, Nat.mul_zero, Nat.zero_mul]
      exact Nat.zero_le _
    · rw [deep]
      exact Nat.mul_le_mul_right _ small
  · intro small
    have most : tens k * 10 ^ d.scale ≤ tens k * 10 ^ 28 :=
      Nat.mul_le_mul_left _ (Nat.pow_le_pow_right (by decide) d.scale_le)
    exact Nat.le_of_mul_le_mul_right (small.trans most) (by positivity)

/-- A product of amounts that are not negative is zero exactly when the exact one is at most half of
the last possible digit. -/
theorem mul?_value_eq_zero_iff (ha : 0 ≤ a.value) (hb : 0 ≤ b.value) (h : mul? a b = some c) :
    c.value = 0 ↔ 2 * (a.value * b.value) * 10 ^ 28 ≤ 1 := by
  have product : a.value * b.value =
      ((a.mantissa * b.mantissa : ℕ) : ℚ) / 10 ^ (a.scale + b.scale) := by
    rw [value_of_nonneg ha, value_of_nonneg hb, div_mul_div_comm, pow_add]
    push_cast
    rfl
  have bound : 2 * (a.value * b.value) * 10 ^ 28 ≤ 1 ↔
      2 * (a.mantissa * b.mantissa) * 10 ^ 28 ≤ 10 ^ (a.scale + b.scale) := by
    rw [product, ← mul_div_assoc, div_mul_eq_mul_div, div_le_one (by positivity)]
    exact_mod_cast Iff.rfl
  rw [bound]
  unfold mul? at h
  split at h
  · rename_i empty
    cases h
    have zero : a.mantissa * b.mantissa = 0 := by
      rcases Bool.or_eq_true_iff.1 empty with za | zb
      · have zero : a.mantissa = 0 := by simpa [isZero] using za
        rw [zero, Nat.zero_mul]
      · have zero : b.mantissa = 0 := by simpa [isZero] using zb
        rw [zero, Nat.mul_zero]
    rw [value_zero, zero]
    simp
  · dsimp only at h
    split at h
    · rename_i tiny
      cases h
      have short : a.mantissa * b.mantissa ≤ limit32 * limit32 :=
        Nat.mul_le_mul tiny.1.le tiny.2.1.le
      have deep : 10 ^ 48 ≤ 10 ^ (a.scale + b.scale) := Nat.pow_le_pow_right (by decide) tiny.2.2
      rw [value_zero]
      refine iff_of_true rfl ((Nat.mul_le_mul_right _ (Nat.mul_le_mul_left 2 short)).trans ?_)
      exact le_trans (by decide) deep
    · exact fit_value_eq_zero_iff h

/-- A product that vanishes vanishes also for a smaller share. -/
theorem mul?_vanishes {b' c' : Decimal} (ha : 0 ≤ a.value) (hb' : 0 ≤ b'.value)
    (le : b'.value ≤ b.value) (h : mul? a b = some c) (vanished : c.value = 0)
    (h' : mul? a b' = some c') : c'.value = 0 := by
  have small := (mul?_value_eq_zero_iff ha (hb'.trans le) h).1 vanished
  rw [mul?_value_eq_zero_iff ha hb' h']
  have less : a.value * b'.value ≤ a.value * b.value := mul_le_mul_of_nonneg_left le ha
  linarith

theorem mul?_nonpos (ha : a.value ≤ 0) (hb : 0 ≤ b.value) (h : mul? a b = some c) :
    c.value ≤ 0 := by
  unfold mul? at h
  split at h
  · cases h
    exact value_zero.le
  · rename_i full
    rw [Bool.or_eq_true, not_or] at full
    dsimp only at h
    split at h
    · cases h
      exact value_zero.le
    · have negative : a.negative = true := by
        by_contra plain
        apply full.1
        apply isZero_iff.2
        apply le_antisymm ha
        rw [value_eq_withSign, Bool.not_eq_true] at *
        rw [plain]
        change 0 ≤ (a.mantissa : ℚ) / 10 ^ a.scale
        positivity
      rw [negative, not_negative_of_nonneg hb full.2] at h
      obtain ⟨k, -, -, made, -⟩ := fit_eq_some h
      rw [value_of_make? made]
      change -(((nearestEven _ _ : ℕ) : ℚ) / 10 ^ c.scale) ≤ 0
      exact neg_nonpos.2 (by positivity)

/-! ## Sums and differences -/

/-- Rounding a total does not change its sign. -/
theorem add?_nonneg (nonneg : 0 ≤ a.value + b.value) (h : add? a b = some c) : 0 ≤ c.value := by
  by_cases za : a.isZero = true
  · rw [add?, if_pos za] at h
    cases h
    rwa [isZero_iff.1 za, zero_add] at nonneg
  · by_cases zb : b.isZero = true
    · rw [add?, if_neg za, if_pos zb] at h
      cases h
      rwa [isZero_iff.1 zb, add_zero] at nonneg
    · obtain ⟨total, scale, -, value, fitted⟩ := add?_eq_fit za zb
      have above : ¬ total < 0 := by
        intro below
        have negative : (total : ℚ) / 10 ^ scale < 0 := by
          apply div_neg_of_neg_of_pos (by exact_mod_cast below) (by positivity)
        rw [value] at negative
        linarith
      rw [fitted] at h
      obtain ⟨k, -, -, made, -⟩ := fit_eq_some h
      rw [value_of_make? made, decide_eq_false above]
      change 0 ≤ ((nearestEven _ _ : ℕ) : ℚ) / 10 ^ c.scale
      positivity

theorem sub?_nonneg (le : b.value ≤ a.value) (h : sub? a b = some c) : 0 ≤ c.value := by
  by_cases za : a.isZero = true
  · rw [sub?, if_pos za] at h
    cases h
    rw [isZero_iff.1 za] at le
    split
    · rename_i zb
      rw [isZero_iff.1 zb]
    · rw [value_neg]
      linarith
  · by_cases zb : b.isZero = true
    · rw [sub?, if_neg za, if_pos zb] at h
      cases h
      rwa [isZero_iff.1 zb] at le
    · rw [sub?, if_neg za, if_neg zb] at h
      apply add?_nonneg _ h
      rw [value_neg]
      linarith

/-- What fits at a scale of decimals misses the exact number by a part of it only. -/
theorem fit_relative {negative : Bool} {magnitude scale : ℕ} (short : scale ≤ 28)
    (h : fit negative magnitude 0 scale = some d) :
    |d.value - withSign negative (magnitude / 10 ^ scale)| ≤ |d.value| / 10 ^ 27 := by
  obtain ⟨k, -, total, made, fewest⟩ := fit_eq_some h
  have value := value_of_make? made
  rw [Nat.zero_add] at total
  rcases Nat.eq_zero_or_pos k with none | some
  · rw [none, Nat.zero_add] at total
    rw [none, tens_zero, nearestEven_one, total] at value
    rw [value, sub_self, abs_zero]
    positivity
  · have long := (fewest.resolve_left (by omega)).resolve_left (by omega)
    have digits : (10 : ℚ) ^ 27 ≤ |d.value| * 10 ^ d.scale := by
      rw [abs_value, (make?_eq_some made).1, div_mul_cancel₀ _ (by positivity)]
      exact_mod_cast le_nearestEven_of_le some long
    have half := abs_withSign_nearestEven_sub_le negative magnitude k d.scale
    rw [total, ← value] at half
    apply half.trans
    rw [div_div, div_le_div_iff₀ (by positivity) (by positivity)]
    linarith

/-- A difference exceeds the exact one by a part of it at most. -/
theorem sub?_bounds (hb : 0 ≤ b.value) (le : b.value ≤ a.value) (h : sub? a b = some c) :
    0 ≤ c.value ∧ c.value * (1 - 1 / 10 ^ 27) ≤ a.value - b.value := by
  have nonneg : 0 ≤ c.value := sub?_nonneg le h
  refine ⟨nonneg, ?_⟩
  have exact (same : c.value = a.value - b.value) :
      c.value * (1 - 1 / 10 ^ 27) ≤ a.value - b.value := by
    rw [← same]
    linarith
  by_cases za : a.isZero = true
  · have zero := isZero_iff.1 za
    have zero' : b.value = 0 := le_antisymm (le.trans zero.le) hb
    apply exact
    exact value_sub? (by rw [zero, zero', sub_zero, abs_zero]; exact zero_le_one) h
  · by_cases zb : b.isZero = true
    · rw [sub?, if_neg za, if_pos zb] at h
      cases h
      exact exact (by rw [isZero_iff.1 zb, sub_zero])
    · rw [sub?, if_neg za, if_neg zb] at h
      have zn : ¬ b.neg.isZero = true := zb
      obtain ⟨total, scale, short, value, fitted⟩ := add?_eq_fit za zn
      rw [fitted] at h
      have near := fit_relative short h
      rw [withSign_natAbs, value, value_neg, ← sub_eq_add_neg] at near
      have above := (le_abs_self _).trans near
      rw [abs_of_nonneg nonneg] at above
      linarith

/-! ## Results that are in range -/

theorem fit_defined (negative : Bool) {magnitude dropped scale : ℕ}
    (short : nearestEven magnitude (tens (dropped + scale)) < limit96) :
    ∃ d, fit negative magnitude dropped scale = some d := by
  induction scale generalizing dropped with
  | zero =>
    refine ⟨_, dif_pos ⟨short, Nat.zero_le 28⟩⟩
  | succ scale ih =>
    unfold fit
    split
    · exact ⟨_, rfl⟩
    · apply ih
      rwa [Nat.add_right_comm]

/-- A share of at most one can be taken of every amount. -/
theorem mul?_defined (a : Decimal) (hb : 0 ≤ b.value) (share : b.value ≤ 1) :
    ∃ c, mul? a b = some c := by
  unfold mul?
  split
  · exact ⟨_, rfl⟩
  · dsimp only
    split
    · exact ⟨_, rfl⟩
    · apply fit_defined
      apply Nat.lt_of_le_of_lt _ a.mantissa_lt
      apply nearestEven_le_of_le_mul (tens_pos _)
      apply Nat.mul_le_mul_left
      apply (mantissa_le_of_share hb share).trans
      exact Nat.pow_le_pow_right (by decide) (by omega)

/-- Numbers whose difference is up to one in size have a decimal for it. -/
theorem sub?_defined (small : |a.value - b.value| ≤ 1) : ∃ c, sub? a b = some c := by
  unfold sub?
  split
  · exact ⟨_, rfl⟩
  · rename_i za
    split
    · exact ⟨_, rfl⟩
    · rename_i zb
      have zn : ¬b.neg.isZero = true := zb
      obtain ⟨total, scale, short, value, fitted⟩ := add?_eq_fit za zn
      rw [value_neg, ← sub_eq_add_neg] at value
      rw [← value] at small
      rw [fitted]
      apply fit_defined
      apply Nat.lt_of_le_of_lt _ (by decide : 1 < limit96)
      apply nearestEven_le_of_le_mul (tens_pos _)
      rw [Nat.one_mul, Nat.zero_add]
      exact natAbs_le_of_abs_le_one small

end Decimal

end TradingDesk
