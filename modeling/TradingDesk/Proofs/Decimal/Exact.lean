import TradingDesk.Order.Side
import TradingDesk.Proofs.Decimal.Value

/-!
# Exact Amounts

An operation on decimals is exact when its result is the number that arithmetic gives, without any
rounding.  An operation that leaves the range of decimals gives no result, and counts as exact.
Accounts that are kept by exact operations add up as rational numbers.
-/

namespace TradingDesk

namespace Decimal

variable {a b : Decimal}

/-- Whether a sum needs no rounding. -/
def AddsExactly (a b : Decimal) : Prop :=
  ∀ c ∈ add? a b, c.value = a.value + b.value

/-- Whether a difference needs no rounding. -/
def SubtractsExactly (a b : Decimal) : Prop :=
  ∀ c ∈ sub? a b, c.value = a.value - b.value

/-- Whether a product needs no rounding. -/
def MultipliesExactly (a b : Decimal) : Prop :=
  ∀ c ∈ mul? a b, c.value = a.value * b.value

/-- Whether no sum needs rounding when amounts are added to a first one, one after another. -/
def SumsExactly (first : Decimal) : List Decimal → Prop
  | [] => True
  | amount :: rest =>
    AddsExactly first amount ∧ ∀ total ∈ add? first amount, SumsExactly total rest

instance (a b : Decimal) : Decidable (AddsExactly a b) :=
  inferInstanceAs (Decidable (∀ c ∈ add? a b, c.value = a.value + b.value))

instance (a b : Decimal) : Decidable (SubtractsExactly a b) :=
  inferInstanceAs (Decidable (∀ c ∈ sub? a b, c.value = a.value - b.value))

instance (a b : Decimal) : Decidable (MultipliesExactly a b) :=
  inferInstanceAs (Decidable (∀ c ∈ mul? a b, c.value = a.value * b.value))

instance SumsExactly.decidable (first : Decimal) :
    (amounts : List Decimal) → Decidable (SumsExactly first amounts)
  | [] => inferInstanceAs (Decidable True)
  | amount :: rest =>
    have (total : Decimal) : Decidable (SumsExactly total rest) := decidable total rest
    inferInstanceAs (Decidable (AddsExactly first amount ∧
      ∀ total ∈ add? first amount, SumsExactly total rest))

theorem value_foldlM_add? {first total : Decimal} {amounts : List Decimal}
    (exact : SumsExactly first amounts) (h : amounts.foldlM add? first = some total) :
    total.value = first.value + (amounts.map value).sum := by
  induction amounts generalizing first with
  | nil =>
    cases h
    exact (add_zero _).symm
  | cons amount rest ih =>
    obtain ⟨next, added, h⟩ := Option.bind_eq_some_iff.1 h
    rw [ih (exact.2 next added) h, exact.1 next added, List.map_cons, List.sum_cons, add_assoc]

end Decimal

/-- The sign of what a side adds to a holding. -/
def Side.sign : Side → ℚ
  | .buy => 1
  | .sell => -1

theorem Side.sign_opposite (side : Side) : side.opposite.sign = -side.sign := by
  cases side
  · rfl
  · exact (neg_neg 1).symm

end TradingDesk
