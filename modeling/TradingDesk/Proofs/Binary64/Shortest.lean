import TradingDesk.Binary64.Shortest
import TradingDesk.Proofs.Binary64.Parts
import TradingDesk.Proofs.Binary64.Reading
import TradingDesk.Proofs.Decimal.Value

/-!
# Shortest Digits Read Back

The digits that stand for a number are taken from the interval of the numbers that round to it, so that
they are read back as the number.  The search for them ends: with eighteen digits the grid is finer
than half the way to the next number, and the next point of the grid lies in the interval.
-/

namespace TradingDesk.Binary64

open Float.Model Float.Model.UnpackedFloat

variable {m n d : ℕ} {e k : ℤ} {a : ℚ} {tie : Tie} {x : Float}

/-- The number that digits stand for. -/
def Digits.value (d : Digits) : ℚ :=
  d.digits * 10 ^ d.exponent

/-! ## The interval over a common denominator -/

theorem cast_twos (n : ℕ) : (twos n : ℚ) = 2 ^ n := by
  exact_mod_cast (rfl : twos n = 2 ^ n)

/-- A power is the quotient of the powers of the two parts of its exponent. -/
theorem zpow_eq_div {b : ℚ} (nonzero : b ≠ 0) (k : ℤ) : b ^ k = b ^ k.toNat / b ^ (-k).toNat := by
  rw [← zpow_natCast, ← zpow_natCast, ← zpow_sub₀ nonzero]
  congr 1
  omega

/-- The ends of the interval are the middles to the neighbours. -/
theorem ends_ofParts (pos : 0 < m) (e : ℤ) :
    ((Interval.ofParts m e).low : ℚ) = lowEnd m e * (Interval.ofParts m e).denominator ∧
      ((Interval.ofParts m e).high : ℚ) = highEnd m e * (Interval.ofParts m e).denominator ∧
      ((Interval.ofParts m e).value : ℚ) = m * 2 ^ e * (Interval.ofParts m e).denominator := by
  have unit : (0 : ℚ) < 2 ^ (-e).toNat := by positivity
  rw [lowEnd, highEnd, zpow_eq_div (by norm_num)]
  refine ⟨?_, ?_, ?_⟩
  · change (((4 * m - if m = 4503599627370496 ∧ -1074 < e then 1 else 2) * twos e.toNat : ℕ) : ℚ) =
      _ * ((4 * twos (-e).toNat : ℕ) : ℚ)
    have least : (if m = 4503599627370496 ∧ -1074 < e then 1 else 2) ≤ 4 * m := by
      split <;> omega
    push_cast [least, cast_twos]
    split <;> field_simp
    ring
  · change (((4 * m + 2) * twos e.toNat : ℕ) : ℚ) = _ * ((4 * twos (-e).toNat : ℕ) : ℚ)
    push_cast [cast_twos]
    field_simp
    ring
  · change ((4 * m * twos e.toNat : ℕ) : ℚ) = _ * ((4 * twos (-e).toNat : ℕ) : ℚ)
    push_cast [cast_twos]
    field_simp

/-- Comparing with a point of a decimal grid over a common denominator. -/
theorem grid_le_iff {bound denominator : ℕ} (positive : 0 < denominator)
    (h : (bound : ℚ) = a * denominator) (n : ℕ) (k : ℤ) :
    (bound * tens (-k).toNat ≤ n * (denominator * tens k.toNat) ↔ a ≤ n * 10 ^ k) ∧
      (n * (denominator * tens k.toNat) ≤ bound * tens (-k).toNat ↔ n * 10 ^ k ≤ a) := by
  have unit : (0 : ℚ) < denominator := by exact_mod_cast positive
  have shift : (0 : ℚ) < 10 ^ (-k).toNat := by positivity
  have scaled : (n : ℚ) * (denominator * 10 ^ k.toNat) =
      n * 10 ^ k * (denominator * 10 ^ (-k).toNat) := by
    rw [zpow_eq_div (by norm_num) k]
    field_simp
  have same : a * denominator * 10 ^ (-k).toNat = a * (denominator * 10 ^ (-k).toNat) :=
    mul_assoc _ _ _
  have both : (0 : ℚ) < denominator * 10 ^ (-k).toNat := mul_pos unit shift
  constructor
  · rw [← Nat.cast_le (α := ℚ)]
    push_cast [cast_tens]
    rw [h, scaled, same, mul_le_mul_iff_left₀ both]
  · rw [← Nat.cast_le (α := ℚ)]
    push_cast [cast_tens]
    rw [h, scaled, same, mul_le_mul_iff_left₀ both]

theorem denominator_pos (m : ℕ) (e : ℤ) : 0 < (Interval.ofParts m e).denominator :=
  Nat.mul_pos (by decide) (twos_pos _)

/-- A point of a decimal grid lies in the interval exactly when it rounds to the number. -/
theorem contains_iff (pos : 0 < m) (n : ℕ) (k : ℤ) :
    (Interval.ofParts m e).contains (n * ((Interval.ofParts m e).denominator * tens k.toNat))
      (-k).toNat = true ↔ IsNear m e (n * 10 ^ k) := by
  obtain ⟨low, high, -⟩ := ends_ofParts pos e
  obtain ⟨low_le, le_low⟩ := grid_le_iff (denominator_pos m e) low n k
  obtain ⟨high_le, le_high⟩ := grid_le_iff (denominator_pos m e) high n k
  have closed : (Interval.ofParts m e).closed = true ↔ Even m := by
    rw [Nat.even_iff]
    exact beq_iff_eq
  unfold Interval.contains IsNear
  dsimp only
  by_cases even : Even m
  · rw [if_pos (closed.2 even), if_pos even, decide_eq_true_eq, low_le, le_high]
  · rw [if_neg (mt closed.1 even), if_neg even, decide_eq_true_eq]
    simp only [← not_le, le_low, high_le]

/-! ## Hits -/

theorem pos_of_near (pos : 0 < m) (near : IsNear m e a) : 0 < a := by
  have whole : (1 : ℚ) ≤ m := by exact_mod_cast pos
  have low : 0 < lowEnd m e := by
    unfold lowEnd
    refine mul_pos ?_ (by positivity)
    split <;> linarith
  exact low.trans_le near.le.1

/-- A hit stands for a number in the interval. -/
theorem hit?_near (pos : 0 < m) {d : Digits}
    (h : (Interval.ofParts m e).hit? tie k = some d) : 0 < d.digits ∧ IsNear m e d.value := by
  have near : IsNear m e d.value := by
    unfold Interval.hit? at h
    dsimp only at h
    split at h
    · rename_i both
      rw [Bool.and_eq_true, contains_iff pos, contains_iff pos] at both
      cases h
      unfold Digits.value
      dsimp only
      split
      · exact both.1
      · exact both.2
    · split at h
      · rename_i low
        cases h
        exact (contains_iff pos _ _).1 low
      · split at h
        · rename_i high
          cases h
          exact (contains_iff pos _ _).1 high
        · cases h
  refine ⟨Nat.pos_of_ne_zero ?_, near⟩
  intro none
  have positive := pos_of_near pos near
  rw [Digits.value, none, Nat.cast_zero, zero_mul] at positive
  exact absurd positive (lt_irrefl _)

/-- There is a hit on a grid that is fine enough. -/
theorem hit?_ne_none (pos : 0 < m) (fine : (10 : ℚ) ^ k < 2 ^ e / 2) :
    (Interval.ofParts m e).hit? tie k ≠ none := by
  have unit := denominator_pos m e
  obtain ⟨-, -, value⟩ := ends_ofParts pos e
  let below := (Interval.ofParts m e).value * tens (-k).toNat /
    ((Interval.ofParts m e).denominator * tens k.toNat)
  have step : 0 < (Interval.ofParts m e).denominator * tens k.toNat :=
    Nat.mul_pos unit (tens_pos _)
  obtain ⟨-, at_least⟩ := grid_le_iff unit value below k
  obtain ⟨beyond, -⟩ := grid_le_iff unit value (below + 1) k
  have low : (below : ℚ) * 10 ^ k ≤ m * 2 ^ e := at_least.1 (Nat.div_mul_le_self _ _)
  have high : (m : ℚ) * 2 ^ e ≤ (below + 1 : ℕ) * 10 ^ k := by
    apply beyond.1
    rw [mul_comm (below + 1)]
    exact (Nat.lt_mul_div_succ _ step).le
  have next : IsNear m e ((below + 1 : ℕ) * 10 ^ k) := by
    push_cast at high ⊢
    apply isNear_of_lt
    · refine lt_of_lt_of_le ?_ high
      unfold lowEnd
      gcongr
      split <;> norm_num
    · rw [highEnd]
      linarith
  have hit := (contains_iff pos (below + 1) k).2 next
  unfold Interval.hit?
  dsimp only
  intro none
  split at none
  · cases none
  · split at none
    · cases none
    · cases none

/-! ## The search -/

/-- A search that reaches a grid fine enough finds digits for the number. -/
theorem search_near (pos : 0 < m) {leading : ℤ} {count digits : ℕ}
    (fine : ∃ j < count, (10 : ℚ) ^ (leading + 1 - (digits + j : ℕ)) < 2 ^ e / 2) :
    0 < ((Interval.ofParts m e).search tie leading count digits).digits ∧
      IsNear m e ((Interval.ofParts m e).search tie leading count digits).value := by
  induction count generalizing digits with
  | zero =>
    obtain ⟨j, less, -⟩ := fine
    exact absurd less (Nat.not_lt_zero j)
  | succ count ih =>
    rw [Interval.search]
    split
    · rename_i d hit
      exact hit?_near pos hit
    · rename_i none
      obtain ⟨j, less, fine⟩ := fine
      cases j with
      | zero => exact absurd none (hit?_ne_none pos fine)
      | succ j =>
        refine ih ⟨j, Nat.lt_of_succ_lt_succ less, ?_⟩
        rwa [Nat.succ_add_eq_add_succ]

/-- A quotient is at least the power of ten of its leading digit. -/
theorem leadingExponent_le (positive : 0 < n) (divisor : 0 < d) :
    (10 : ℚ) ^ leadingExponent n d * d ≤ n := by
  have unit : (0 : ℚ) < d := by exact_mod_cast divisor
  unfold leadingExponent
  split
  · rename_i le
    obtain ⟨least, -⟩ := tens_bounds (Nat.div_pos le divisor)
    rw [← le_div_iff₀ unit]
    exact least.trans Nat.cast_div_le
  · rename_i less
    have some : 0 < (Nat.toDigits 10 (d / n)).length := Nat.length_toDigits_pos
    obtain ⟨-, most⟩ := tens_bounds (Nat.div_pos (Nat.lt_of_not_le less).le positive)
    generalize (Nat.toDigits 10 (d / n)).length = length at *
    dsimp only
    split
    · rename_i le
      have le : (d : ℚ) ≤ n * 10 ^ (length - 1) := by
        rw [← cast_tens]
        exact_mod_cast le
      have exponent : -((length : ℤ) - 1) = -((length - 1 : ℕ) : ℤ) := by omega
      rw [exponent, zpow_neg, zpow_natCast, inv_mul_le_iff₀ (by positivity), mul_comm]
      exact le
    · have quotient : d / n + 1 ≤ 10 ^ length := by
        rw [zpow_natCast] at most
        exact_mod_cast most
      have le : d ≤ 10 ^ length * n := by
        calc d ≤ n * (d / n + 1) := (Nat.lt_mul_div_succ d positive).le
          _ ≤ n * 10 ^ length := by gcongr
          _ = 10 ^ length * n := mul_comm _ _
      rw [zpow_neg, zpow_natCast, inv_mul_le_iff₀ (by positivity)]
      exact_mod_cast le

/-- Removing zeros keeps what the digits stand for. -/
theorem value_trim (d : Digits) (count : ℕ) : (d.trim count).value = d.value := by
  induction count generalizing d with
  | zero => rfl
  | succ count ih =>
    unfold Digits.trim
    split
    · rename_i zeros
      have tenfold : (d.digits : ℚ) = 10 * (d.digits / 10 : ℕ) := by
        exact_mod_cast (by omega : d.digits = 10 * (d.digits / 10))
      rw [ih, Digits.value, Digits.value, tenfold, zpow_add_one₀ (by norm_num)]
      ring
    · rfl

theorem trim_pos {d : Digits} (positive : 0 < d.digits) (count : ℕ) :
    0 < (d.trim count).digits := by
  induction count generalizing d with
  | zero => exact positive
  | succ count ih =>
    unfold Digits.trim
    split
    · exact ih (by omega : 0 < d.digits / 10)
    · exact positive

/-- The shortest digits of a number stand for one that rounds to it. -/
theorem shortest_near {s : Sign} {pos : 0 < m} (h : x.toModel.unpack = .finite s m e pos)
    (tie : Tie) : 0 < (shortest tie x).digits ∧ IsNear m e (shortest tie x).value := by
  obtain ⟨mantissa, exponent, -⟩ := decompose_of_unpack h
  have canonical := (canonical_of_unpack h).1
  obtain ⟨-, -, value⟩ := ends_ofParts pos e
  have denominator : (0 : ℚ) < (Interval.ofParts m e).denominator := by
    exact_mod_cast denominator_pos m e
  have unit : (0 : ℚ) < 2 ^ e := by positivity
  have nonzero : 0 < (Interval.ofParts m e).value := by
    have positive : (0 : ℚ) < (Interval.ofParts m e).value := by
      rw [value]
      positivity
    exact_mod_cast positive
  have found : shortest tie x = ((Interval.ofParts m e).search tie
      (leadingExponent (Interval.ofParts m e).value (Interval.ofParts m e).denominator)
        18 1).trim 400 := by
    unfold shortest
    simp only [mantissa, exponent]
  have leads := leadingExponent_le nonzero (denominator_pos m e)
  generalize leadingExponent (Interval.ofParts m e).value (Interval.ofParts m e).denominator =
    leading at *
  rw [value, mul_le_mul_iff_left₀ denominator] at leads
  have digits : (m : ℚ) * 2 ^ e < 2 ^ 53 * 2 ^ e := by
    gcongr
    exact_mod_cast canonical.lt
  -- Eighteen digits divide the leading power of ten by more than twice 53 bits.
  have fine : (10 : ℚ) ^ (leading + 1 - (1 + 17 : ℕ)) < 2 ^ e / 2 := by
    have split : leading + 1 - ((1 + 17 : ℕ) : ℤ) = leading - 17 := by push_cast; ring
    rw [split, zpow_sub₀ (by norm_num), div_lt_iff₀ (by norm_num)]
    norm_num at digits ⊢
    linarith
  obtain ⟨positive, near⟩ := search_near pos ⟨17, (by decide : 17 < 18), fine⟩
  rw [found, value_trim]
  exact ⟨trim_pos positive 400, near⟩

end TradingDesk.Binary64
