import TradingDesk.Order.Confirmation
import TradingDesk.Proofs.Decimal.Text

/-!
# Confirmed Orders

A confirmed order has a positive price, whatever the broker answered.  Its quantity is a positive
amount that the broker named, or else the quantity that was asked for.
-/

namespace TradingDesk.Order

variable {r : Response} {symbol : String} {requested : Decimal} {fill : Confirmed}

theorem not_mem_failedStatuses {status : String} (accepted : status ∈ acceptedStatuses) :
    status ∉ failedStatuses := by
  revert status
  decide

theorem confirm?_eq_ok (h : confirm? r symbol requested = some (.ok fill)) :
    identify r symbol = .ok (fill.orderId, fill.status) ∧
      fillPrice? r = some (.ok fill.price) ∧ fillQuantity? r requested = some fill.quantity := by
  unfold confirm? at h
  split at h
  · cases h
  · rename_i reference status identified
    obtain ⟨priced, price, h⟩ := Option.bind_eq_some_iff.1 h
    cases priced with
    | error refusal => cases h
    | ok amount =>
      obtain ⟨quantity, filled, h⟩ := Option.bind_eq_some_iff.1 h
      cases h
      exact ⟨identified, price, filled⟩

/-- A response without an identifier is refused. -/
theorem identify_of_unnamed (unnamed : r.reference? = none) :
    ∃ refusal, identify r symbol = .error refusal := by
  cases broken : r.errorMessage? with
  | some text => exact ⟨.brokerError text, by simp [identify, broken]; rfl⟩
  | none =>
    cases status : r.normalizedStatus? with
    | none => exact ⟨.noReference, by simp [identify, broken, status, unnamed]; rfl⟩
    | some word =>
      by_cases failed : word ∈ failedStatuses
      · exact ⟨.failedStatus word, by simp [identify, broken, status, failed]; rfl⟩
      · exact ⟨.noReference, by simp [identify, broken, status, failed, unnamed]; rfl⟩

theorem zero_lt_of_fillPrice? {price : Decimal} (h : fillPrice? r = some (.ok price)) :
    Decimal.zero < price := by
  obtain ⟨candidate, -, h⟩ := Option.bind_eq_some_iff.1 h
  cases candidate with
  | none => cases h
  | some candidate =>
    dsimp only at h
    split at h
    · rename_i positive
      cases h
      exact positive
    · cases h

/-- A confirmed quantity is a positive amount of the response, or the one that was asked for. -/
theorem fillQuantity?_cases {quantity : Decimal} (h : fillQuantity? r requested = some quantity) :
    Decimal.zero < quantity ∨ quantity = requested := by
  unfold fillQuantity? at h
  split at h
  · rename_i volume named
    cases h
    exact .inl (by simpa [Decimal.isPositive] using (Option.filter_eq_some_iff.1 named).2)
  · obtain ⟨total, -, h⟩ := Option.bind_eq_some_iff.1 h
    split at h
    · rename_i positive
      cases h
      exact .inl positive
    · cases h
      exact .inr rfl

theorem confirm?_isPlain (plain : requested.IsPlain)
    (h : confirm? r symbol requested = some (.ok fill)) :
    fill.price.IsPlain ∧ fill.quantity.IsPlain := by
  obtain ⟨-, priced, filled⟩ := confirm?_eq_ok h
  refine ⟨Decimal.isPlain_of_zero_lt (zero_lt_of_fillPrice? priced), ?_⟩
  obtain positive | same := fillQuantity?_cases filled
  · exact Decimal.isPlain_of_zero_lt positive
  · rw [same]
    exact plain

end TradingDesk.Order
