import TradingDesk.Proofs.Decimal.Value
import TradingDesk.Proofs.Related

/-!
# Negated Decimals

Negation turns the order around and keeps every size.  It therefore exchanges the smaller of two
decimals with the larger, and the difference of two negated decimals is the difference of the
decimals the other way round.  Only a zero can come out with another scale or sign, because a zero
on the right of a difference of zeros is returned as it is.  No comparison and no quotient tells
such zeros apart.
-/

namespace TradingDesk.Decimal

variable {a b c : Decimal}

/-! ## Order -/

@[simp]
protected theorem neg_neg (d : Decimal) : d.neg.neg = d := by
  cases d
  simp [neg]

@[simp]
theorem isZero_neg (d : Decimal) : d.neg.isZero = d.isZero := rfl

@[simp]
protected theorem neg_le_neg_iff : a.neg ≤ b.neg ↔ b ≤ a := by
  rw [le_iff, le_iff, value_neg, value_neg, neg_le_neg_iff]

@[simp]
protected theorem neg_lt_neg_iff : a.neg < b.neg ↔ b < a := by
  rw [lt_iff, lt_iff, value_neg, value_neg, neg_lt_neg_iff]

protected theorem min_neg_neg (a b : Decimal) : a.neg.min b.neg = (a.max b).neg := by
  rw [Decimal.min, Decimal.max, apply_ite neg]
  exact if_congr Decimal.neg_lt_neg_iff rfl rfl

protected theorem max_neg_neg (a b : Decimal) : a.neg.max b.neg = (a.min b).neg := by
  rw [Decimal.min, Decimal.max, apply_ite neg]
  exact if_congr Decimal.neg_lt_neg_iff rfl rfl

/-! ## Zeros that differ in form only -/

/-- Whether two decimals are equal or both zero. -/
def Alike (a b : Decimal) : Prop :=
  a = b ∨ a.isZero = true ∧ b.isZero = true

theorem alike_self (d : Decimal) : Alike d d :=
  Or.inl rfl

theorem Alike.isZero_eq (alike : Alike a b) : a.isZero = b.isZero := by
  obtain rfl | ⟨za, zb⟩ := alike
  · rfl
  · rw [za, zb]

theorem Alike.value_eq (alike : Alike a b) : a.value = b.value := by
  obtain rfl | ⟨za, zb⟩ := alike
  · rfl
  · rw [isZero_iff.1 za, isZero_iff.1 zb]

theorem Alike.eq_of_not_isZero (alike : Alike a b) (some : ¬b.isZero = true) : a = b :=
  alike.resolve_right fun zeros ↦ some zeros.2

theorem Alike.lt_iff_left (alike : Alike a b) : a < c ↔ b < c := by
  rw [lt_iff, lt_iff, alike.value_eq]

theorem Alike.lt_iff_right (alike : Alike a b) : c < a ↔ c < b := by
  rw [lt_iff, lt_iff, alike.value_eq]

theorem Alike.div?_eq (alike : Alike a b) (c : Decimal) : div? a c = div? b c := by
  obtain rfl | ⟨za, zb⟩ := alike
  · rfl
  · unfold div?
    rw [if_pos za, if_pos zb]

/-! ## Sums and differences -/

theorem add?_comm_of_not_isZero (ha : ¬a.isZero = true) (hb : ¬b.isZero = true) :
    add? a b = add? b a := by
  rw [add?, if_neg ha, if_neg hb, add?, if_neg hb, if_neg ha, Nat.max_comm]
  dsimp only
  rw [Int.add_comm]

/-- Negating both sides of a difference exchanges them. -/
theorem sub?_neg_neg (a b : Decimal) : Option.Rel Alike (sub? b.neg a.neg) (sub? a b) := by
  unfold sub?
  rw [isZero_neg, isZero_neg, Decimal.neg_neg]
  by_cases zb : b.isZero = true
  · rw [if_pos zb, if_pos zb, if_pos zb]
    by_cases za : a.isZero = true
    · -- Each difference is the zero on its own right.
      rw [if_pos za, if_pos za]
      exact .some (Or.inr ⟨za, zb⟩)
    · rw [if_neg za, if_neg za]
      exact .some (alike_self a)
  · rw [if_neg zb, if_neg zb, if_neg zb]
    by_cases za : a.isZero = true
    · rw [if_pos za, if_pos za]
      exact .some (alike_self b.neg)
    · have zn : ¬b.neg.isZero = true := zb
      rw [if_neg za, if_neg za, add?_comm_of_not_isZero zn za]
      exact rel_imp (rel_same _) fun _ _ ↦ Or.inl

/-! ## Sizes -/

theorem map_abs_make? (negative : Bool) (mantissa scale : ℕ) :
    (make? negative mantissa scale).map abs = make? false mantissa scale := by
  unfold make?
  split
  · simp [abs]
  · rfl

/-- What fits has the same size under either sign. -/
theorem map_abs_fit (negative : Bool) (magnitude dropped scale : ℕ) :
    (fit negative magnitude dropped scale).map abs = fit false magnitude dropped scale := by
  induction scale generalizing dropped with
  | zero => exact map_abs_make? negative _ 0
  | succ scale ih =>
    have made := map_abs_make? negative (nearestEven magnitude (tens dropped)) (scale + 1)
    unfold fit
    cases signed : make? negative (nearestEven magnitude (tens dropped)) (scale + 1) with
    | none =>
      rw [signed] at made
      rw [← made]
      exact ih (dropped + 1)
    | some d =>
      rw [signed] at made
      rw [← made]
      rfl

theorem signedAt_neg (d : Decimal) (scale : ℕ) : d.neg.signedAt scale = -d.signedAt scale := by
  rw [signedAt, signed_neg, Int.neg_mul]
  rfl

theorem map_abs_add?_neg_neg (a b : Decimal) :
    (add? a.neg b.neg).map abs = (add? a b).map abs := by
  unfold add?
  rw [isZero_neg, isZero_neg]
  split
  · rfl
  · split
    · rfl
    · have turned (scale : ℕ) : a.neg.signedAt scale + b.neg.signedAt scale =
          -(a.signedAt scale + b.signedAt scale) := by
        rw [signedAt_neg, signedAt_neg, Int.neg_add]
      rw [map_abs_fit, map_abs_fit, turned, Int.natAbs_neg]
      rfl

/-- The size of a difference does not depend on signs that both sides change. -/
theorem map_abs_sub?_neg_neg (a b : Decimal) :
    (sub? a.neg b.neg).map abs = (sub? a b).map abs := by
  unfold sub?
  rw [isZero_neg, isZero_neg]
  split
  · split
    · rfl
    · rfl
  · split
    · rfl
    · exact map_abs_add?_neg_neg a b.neg

end TradingDesk.Decimal
