import TradingDesk.Proofs.Decimal.Quotient

/-!
# Quotients in Range

The development of a quotient fails only when the quotient has too many digits before its point.  As
long as the scale is below zero, the digits so far are those of a number below the quotient, so a
quotient below a billion always leaves room for a whole block, and its development ends.  A divisor
with no more fraction digits than the dividend leaves no scale below zero, whatever the size.
-/

namespace TradingDesk.Decimal

variable {a b : Decimal} {x : ℚ} {divisor q r : Nat} {scale : ℤ}

/-! ## Room for further digits -/

theorem headroom_of_lt {limit : Nat} (room : q * tens limit < limit96) :
    headroom q limit = limit := by
  cases limit with
  | zero => rfl
  | succ limit => rw [headroom, if_pos room]

theorem mul_tens_headroom_lt (fits : q < limit96) (limit : Nat) :
    q * tens (headroom q limit) < limit96 := by
  induction limit with
  | zero => simpa [headroom] using fits
  | succ limit ih =>
    unfold headroom
    split
    · assumption
    · exact ih

/-- Digits before the point of a number below a billion are below a billion. -/
theorem digits_lt_of_nonpos (below : x < 10 ^ 9)
    (number : x * 10 ^ scale = q + r / divisor) (high : scale ≤ 0) : q < 10 ^ 9 := by
  have rest : (0 : ℚ) ≤ r / divisor := by positivity
  have unit : (10 : ℚ) ^ scale ≤ 1 := zpow_le_one_of_nonpos₀ (by norm_num) high
  have unit' : (0 : ℚ) < 10 ^ scale := zpow_pos (by norm_num) scale
  have least : (0 : ℚ) ≤ q := Nat.cast_nonneg q
  have most : (q : ℚ) < 10 ^ 9 := by
    by_cases nonneg : 0 ≤ x
    · have shrunk : x * 10 ^ scale ≤ x := mul_le_of_le_one_right nonneg unit
      linarith
    · have negative : x * 10 ^ scale < 0 := mul_neg_of_neg_of_pos (lt_of_not_ge nonneg) unit'
      linarith
  exact_mod_cast most

/-! ## Ends of a development -/

/-- Whether digits and scale of a quotient are those of a decimal. -/
def Quotient.InRange (z : Quotient) : Prop :=
  z.digits < limit96 ∧ z.scale ≤ 28

theorem roundOff_inRange (fits : q < limit96) (short : scale ≤ 28) :
    (Quotient.roundOff divisor q r scale).InRange := by
  unfold Quotient.roundOff
  dsimp only
  generalize (decide (divisor < 2 * r) || decide (2 * r = divisor) && q % 2 == 1) = up
  have most : (if up then q + 1 else q) ≤ q + 1 := by split <;> omega
  generalize (if up then q + 1 else q) = q' at most ⊢
  split
  · rename_i below
    exact ⟨below, short⟩
  · unfold Quotient.InRange limit96 at *
    dsimp only
    omega

theorem dropDigit?_inRange {carried : Bool} (near : q < limit96 + 10 ^ 9) (deep : 1 ≤ scale)
    (short : scale ≤ 28) :
    ∃ z, Quotient.dropDigit? q r scale carried = some z ∧ z.InRange := by
  unfold Quotient.dropDigit?
  rw [if_neg (by omega)]
  refine ⟨_, rfl, ?_, by dsimp only; omega⟩
  dsimp only
  unfold limit96 at *
  split <;> omega

/-- A quotient is developed to the end when its digits reach the point from the start, or when it is
below a billion. -/
theorem develop?_defined (carried : Bool) (small : r < divisor) (fits : q < limit96)
    (short : scale ≤ 28) (below : scale < 0 → x < 10 ^ 9)
    (number : x * 10 ^ scale = q + r / divisor) :
    ∃ z, develop? divisor q r scale carried = some z ∧ z.InRange := by
  have pos : 0 < divisor := Nat.zero_lt_of_lt small
  induction q, r, scale, carried using develop?.induct divisor with
  | case1 q scale carried deep =>
    rw [develop?, dif_pos rfl, dif_pos deep]
    exact ⟨_, rfl, fits, short⟩
  | case2 q scale carried high p q' beyond =>
    have few := digits_lt_of_nonpos (below (by omega)) number (by omega)
    have block : tens p ≤ tens 9 := Nat.pow_le_pow_right (by decide) (Nat.min_le_left _ _)
    have digits : q * tens p ≤ 10 ^ 9 * tens 9 := Nat.mul_le_mul few.le block
    exact absurd (beyond.trans digits) (by decide)
  | case3 q scale carried high p q' room ih =>
    have step := number_step pos number p
    simp only [Nat.zero_mul, Nat.zero_div, Nat.zero_mod, Nat.add_zero] at step
    have block : p ≤ (-scale).toNat := Nat.min_le_right _ _
    rw [develop?, dif_pos rfl, dif_neg high]
    rw [if_neg room]
    exact ih pos (Nat.lt_of_not_le room) (by omega) (fun _ ↦ below (by omega)) step
  | case4 q r scale carried rest limit p tight =>
    have few := digits_lt_of_nonpos (below (by omega)) number (by omega)
    have whole : limit = 9 := Nat.min_eq_left (by omega)
    have digits : q * tens limit < limit96 := by
      rw [whole]
      exact (Nat.mul_le_mul_right _ few.le).trans_lt (by decide)
    have full : p = limit := headroom_of_lt digits
    omega
  | case5 q r scale carried rest limit p enough none =>
    rw [develop?, dif_neg rest]
    rw [if_neg enough, dif_pos none]
    exact ⟨_, rfl, roundOff_inRange fits short⟩
  | case6 q r scale carried rest limit p enough some beyond =>
    exact absurd (mul_tens_headroom_lt fits limit) (Nat.not_lt.2 beyond)
  | case7 q r scale carried rest limit p enough some q' room beyond =>
    have step := number_step pos number p
    have block : p ≤ limit := headroom_le q limit
    have within : limit ≤ 9 := Nat.min_le_left _ _
    have last : p ≤ (28 - scale).toNat := block.trans (Nat.min_le_right _ _)
    have deep : 1 ≤ scale + p := by
      by_contra high
      have high : scale + p ≤ 0 := Int.le_of_lt_add_one (Int.not_le.1 high)
      have few : q' < 10 ^ 9 := digits_lt_of_nonpos (below (by omega)) step high
      exact absurd (beyond.trans few.le) (by decide)
    have near : q' < limit96 + 10 ^ 9 := by
      have part : r * tens p / divisor < tens p :=
        Nat.div_lt_of_lt_mul (Nat.mul_lt_mul_of_pos_right small (tens_pos p))
      have size : tens p ≤ 10 ^ 9 := Nat.pow_le_pow_right (by decide) (block.trans within)
      have room : q * tens p < limit96 := Nat.lt_of_not_le room
      exact Nat.add_lt_add room (part.trans_le size)
    have short' : scale + p ≤ 28 := by omega
    rw [develop?, dif_neg rest]
    rw [if_neg enough, dif_neg some]
    rw [if_neg room, if_pos beyond]
    exact dropDigit?_inRange near deep short'
  | case8 q r scale carried rest limit p enough some q' r' room room' ih =>
    have block : p ≤ limit := headroom_le q limit
    have within : limit ≤ (28 - scale).toNat := Nat.min_le_right _ _
    rw [develop?, dif_neg rest]
    rw [if_neg enough, dif_neg some]
    rw [if_neg room, if_neg room']
    exact ih (Nat.mod_lt _ pos) (Nat.lt_of_not_le room') (by omega) (fun _ ↦ below (by omega))
      (number_step pos number p)

/-! ## Removed zeros -/

theorem stripBlocks_le (q scale : Nat) :
    (stripBlocks q scale).1 ≤ q ∧ (stripBlocks q scale).2 ≤ scale := by
  induction q, scale using stripBlocks.induct with
  | case1 q scale zeros ih =>
    rw [stripBlocks, if_pos zeros]
    exact ⟨ih.1.trans (Nat.div_le_self _ _), ih.2.trans (Nat.sub_le _ _)⟩
  | case2 q scale full =>
    rw [stripBlocks, if_neg full]
    exact ⟨le_rfl, le_rfl⟩

theorem stripOnce_le (digits : Nat) (qs : Nat × Nat) :
    (stripOnce digits qs).1 ≤ qs.1 ∧ (stripOnce digits qs).2 ≤ qs.2 := by
  unfold stripOnce
  split
  · exact ⟨Nat.div_le_self _ _, Nat.sub_le _ _⟩
  · exact ⟨le_rfl, le_rfl⟩

theorem tidy_le (z : Quotient) : z.tidy.1 ≤ z.digits ∧ z.tidy.2 ≤ z.scale.toNat := by
  unfold Quotient.tidy
  split
  · have blocks := stripBlocks_le z.digits z.scale.toNat
    have four := stripOnce_le 4 (stripBlocks z.digits z.scale.toNat)
    have two := stripOnce_le 2 (stripOnce 4 (stripBlocks z.digits z.scale.toNat))
    have one := stripOnce_le 1 (stripOnce 2 (stripOnce 4 (stripBlocks z.digits z.scale.toNat)))
    exact ⟨one.1.trans (two.1.trans (four.1.trans blocks.1)),
      one.2.trans (two.2.trans (four.2.trans blocks.2))⟩
  · exact ⟨le_rfl, le_rfl⟩

/-! ## Quotients -/

/-- A quotient is a decimal when the divisor has no more fraction digits than the dividend, or when
it is below a billion. -/
theorem div?_defined_of_scale (nonzero : ¬b.isZero = true)
    (below : a.scale < b.scale → |a.value / b.value| < 10 ^ 9) : ∃ c, div? a b = some c := by
  unfold div?
  rw [if_neg nonzero]
  split
  · exact ⟨_, rfl⟩
  · have pos : 0 < b.mantissa := Nat.pos_of_ne_zero (by simpa [isZero] using nonzero)
    rw [abs_div, abs_value, abs_value] at below
    obtain ⟨z, developed, digits, short⟩ := develop?_defined false
      (Nat.mod_lt _ pos) (Nat.lt_of_le_of_lt (Nat.div_le_self _ _) a.mantissa_lt)
      (by have limit := a.scale_le; omega) (fun _ ↦ below (by omega)) (number_start a b)
    have least := tidy_le z
    have made : ∃ c, make? (a.negative != b.negative) z.tidy.1 z.tidy.2 = some c :=
      ⟨_, dif_pos ⟨least.1.trans_lt digits, least.2.trans (by omega)⟩⟩
    obtain ⟨c, made⟩ := made
    exact ⟨c, Option.bind_eq_some_iff.2 ⟨z, developed, made⟩⟩

/-- A quotient below a billion is a decimal. -/
theorem div?_defined (nonzero : b.value ≠ 0) (below : |a.value / b.value| < 10 ^ 9) :
    ∃ c, div? a b = some c :=
  div?_defined_of_scale (mt isZero_iff.1 nonzero) fun _ ↦ below

end TradingDesk.Decimal
