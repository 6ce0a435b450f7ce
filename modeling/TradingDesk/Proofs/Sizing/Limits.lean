import TradingDesk.Proofs.Decimal.Exact
import TradingDesk.Proofs.Decimal.FractionDigits
import TradingDesk.Sizing

/-!
# Sizes and Their Limits

A size is cut to the limits before it is rounded to cents, so what is within the limits is the amount
before the rounding, and the size is the whole number of cents next to it.  Every limit is therefore
kept to half a cent, and a limit that is a whole number of cents is kept.

Any other limit can be missed: with the usual settings a size can take the open positions over their
share of the balance.
-/

namespace TradingDesk

namespace Sizing

open Decimal

variable {s : Settings} {balance exposure size capacity r : Decimal} {score : Nat}
  {history : Option Performance}

/-! ## The size before it is rounded -/

/-- Whether a size is within the smallest and the largest trade and within a capacity. -/
structure Fits (s : Settings) (capacity size : Decimal) : Prop where
  least : s.minTrade ≤ size
  most : size ≤ s.maxTrade
  room : size ≤ capacity

/-- What the portfolio share of a balance leaves beside an exposure. -/
def capacity? (s : Settings) (balance exposure : Decimal) : Option Decimal := do
  let total ← mul? balance s.maxAllocation
  sub? total exposure

theorem constrain?_cases (h : constrain? s size balance exposure = some r) :
    r = zero ∨ ∃ capacity final, capacity? s balance exposure = some capacity ∧
      Fits s capacity final ∧ r = final.round 2 := by
  obtain ⟨total, multiplied, h⟩ := Option.bind_eq_some_iff.1 h
  obtain ⟨capacity, left, h⟩ := Option.bind_eq_some_iff.1 h
  split at h
  · cases h
    exact .inl rfl
  · dsimp only at h
    split at h
    · cases h
      exact .inl rfl
    · rename_i enough
      cases h
      refine .inr ⟨capacity, _, ?_, ⟨Decimal.not_lt.1 enough, ?_, ?_⟩, rfl⟩
      · rw [capacity?, multiplied]
        exact left
      · rw [le_iff, value_min, value_min]
        exact (min_le_left _ _).trans (min_le_right _ _)
      · rw [le_iff, value_min]
        exact min_le_right _ _

theorem size?_cases (h : size? s balance score history exposure = some r) :
    r = zero ∨ ∃ capacity final, capacity? s balance exposure = some capacity ∧
      Fits s capacity final ∧ r = final.round 2 := by
  unfold size? at h
  split at h
  · cases h
    exact .inl rfl
  · obtain ⟨sized, -, h⟩ := Option.bind_eq_some_iff.1 h
    split at h
    · cases h
      exact .inl rfl
    · exact constrain?_cases h

/-! ## The room that the portfolio share leaves -/

/-- What the precision of decimals can add to a capacity. -/
def imprecision (s : Settings) (balance exposure : Decimal) : ℚ :=
  (|balance.value * s.maxAllocation.value| + |exposure.value| + 1) / 10 ^ 26

theorem capacity?_le (h : capacity? s balance exposure = some capacity) :
    exposure.value + capacity.value ≤
      balance.value * s.maxAllocation.value + imprecision s balance exposure := by
  obtain ⟨total, multiplied, left⟩ := Option.bind_eq_some_iff.1 h
  have product := (mul?_approximates multiplied).abs_sub_le_part
  have rest := (sub?_approximates left).abs_sub_le_part
  have size : |total.value - exposure.value| ≤ |total.value| + |exposure.value| := abs_sub _ _
  have size' : |total.value| ≤
      |total.value - balance.value * s.maxAllocation.value| +
        |balance.value * s.maxAllocation.value| := by
    simpa using abs_add_le (total.value - balance.value * s.maxAllocation.value)
      (balance.value * s.maxAllocation.value)
  have above := (abs_le.1 product).2
  have above' := (abs_le.1 rest).2
  have part := abs_nonneg (balance.value * s.maxAllocation.value)
  have part' := abs_nonneg exposure.value
  unfold imprecision
  linarith

theorem capacity?_eq (multiplies : MultipliesExactly balance s.maxAllocation)
    (subtracts : ∀ total ∈ mul? balance s.maxAllocation, SubtractsExactly total exposure)
    (h : capacity? s balance exposure = some capacity) :
    capacity.value = balance.value * s.maxAllocation.value - exposure.value := by
  obtain ⟨total, multiplied, left⟩ := Option.bind_eq_some_iff.1 h
  rw [subtracts total multiplied capacity left, multiplies total multiplied]

/-! ## The limits -/

/-- Whether a size is none, or within the limits of trades and of the portfolio share. -/
def KeepsLimits (s : Settings) (balance exposure size : Decimal) : Prop :=
  size.value = 0 ∨ s.minTrade ≤ size ∧ size ≤ s.maxTrade ∧
    exposure.value + size.value ≤ balance.value * s.maxAllocation.value

/-- Whether a size is a whole number of cents that keeps every limit to half a cent, and keeps each
limit that is a whole number of cents itself. -/
structure KeepsToTheCent (s : Settings) (balance exposure size : Decimal) : Prop where
  cents : HasDigits 2 size.value
  least : s.minTrade.value - 1 / 200 ≤ size.value
  most : size.value ≤ s.maxTrade.value + 1 / 200
  room : exposure.value + size.value ≤
    balance.value * s.maxAllocation.value + 1 / 200 + imprecision s balance exposure
  least_of_cents : HasDigits 2 s.minTrade.value → s.minTrade ≤ size
  most_of_cents : HasDigits 2 s.maxTrade.value → size ≤ s.maxTrade
  room_of_cents : MultipliesExactly balance s.maxAllocation →
    (∀ total ∈ mul? balance s.maxAllocation, SubtractsExactly total exposure) →
    HasDigits 2 (balance.value * s.maxAllocation.value - exposure.value) →
    exposure.value + size.value ≤ balance.value * s.maxAllocation.value

theorem Fits.round {final : Decimal} (left : capacity? s balance exposure = some capacity)
    (fits : Fits s capacity final) : KeepsToTheCent s balance exposure (final.round 2) := by
  have least := le_iff.1 fits.least
  have most := le_iff.1 fits.most
  have room := le_iff.1 fits.room
  have near := abs_le.1 (abs_round_sub_le final 2)
  have half : (1 : ℚ) / 2 / 10 ^ 2 = 1 / 200 := by norm_num
  rw [half] at near
  have above := capacity?_le left
  refine ⟨hasDigits_round final 2, by linarith, by linarith, by linarith, ?_, ?_, ?_⟩
  · intro cents
    exact le_iff.2 (le_round_of_le cents least)
  · intro cents
    exact le_iff.2 (round_le_of_le cents most)
  · intro multiplies subtracts cents
    have exact := capacity?_eq multiplies subtracts left
    rw [← exact] at cents
    linarith [round_le_of_le cents room]

/-- Every size is none or keeps its limits to the cent. -/
theorem limits_kept_to_the_cent (h : size? s balance score history exposure = some r) :
    r.value = 0 ∨ KeepsToTheCent s balance exposure r := by
  obtain rfl | ⟨capacity, final, left, fits, rfl⟩ := size?_cases h
  · exact .inl value_zero
  · exact .inr (fits.round left)

/-! ## A room that ends between two cents -/

/-- The size for a balance of 1000.03 beside open positions of 480, which leave 20.015. -/
theorem size?_narrowRoom :
    size? Settings.standard (const 100003 2) 5 none (const 480 0) = some (const 2002 2) := by
  decide +kernel

/-- With the usual settings the open positions can exceed their share of the balance. -/
theorem size_can_exceed_portfolio_share : ∃ size,
    size? Settings.standard (const 100003 2) 5 none (const 480 0) = some size ∧
      ¬KeepsLimits Settings.standard (const 100003 2) (const 480 0) size := by
  refine ⟨const 2002 2, size?_narrowRoom, ?_⟩
  have value : (const 2002 2).value = 2002 / 100 := by
    rw [value_const (by decide) (by decide)]
    norm_num
  rintro (none | ⟨-, -, within⟩)
  · rw [value] at none
    norm_num at none
  · have share : Settings.standard.maxAllocation.value = 5 / 10 := by
      rw [Settings.standard, value_const (by decide) (by decide)]
      norm_num
    rw [value, share, value_const (by decide) (by decide), value_const (by decide) (by decide)]
      at within
    norm_num at within

theorem limits_kept_to_the_cent_narrowRoom :
    size? Settings.standard (const 100003 2) 5 none (const 480 0) = some (const 2002 2) ∧
      ((const 2002 2).value = 0 ∨
        KeepsToTheCent Settings.standard (const 100003 2) (const 480 0) (const 2002 2)) :=
  ⟨size?_narrowRoom, limits_kept_to_the_cent size?_narrowRoom⟩

end Sizing

end TradingDesk
