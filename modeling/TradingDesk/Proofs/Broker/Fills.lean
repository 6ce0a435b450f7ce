import TradingDesk.Broker.Paper
import TradingDesk.Proofs.Order.Confirmation

/-!
# Fills of a Broker

What a broker confirmed of a list of orders follows from its state before the first of them.  A
broker fills orders exactly when it confirms no other quantity than the one that was ordered; the
paper broker does.
-/

namespace TradingDesk.Broker

variable {σ : Type}

/-- What a broker confirms of orders that are placed one after another, with its state at the
end. -/
def fills? (broker : Broker σ) (market : σ) :
    List Order.Request → Option (List Order.Confirmed × σ)
  | [] => some ([], market)
  | order :: rest => do
    let (answer, market) ← broker.place market order
    match answer with
    | .error _ => broker.fills? market rest
    | .ok response =>
      match ← Order.confirm? response order.symbol order.quantity with
      | .error _ => broker.fills? market rest
      | .ok fill => (broker.fills? market rest).map fun (fills, market) ↦ (fill :: fills, market)

/-- Whether a broker confirms no other quantity than the one that was ordered. -/
def FillsOrders (broker : Broker σ) : Prop :=
  ∀ {market market' : σ} {order : Order.Request} {response : Order.Response}
    {fill : Order.Confirmed},
    broker.place market order = some (.ok response, market') →
    Order.confirm? response order.symbol order.quantity = some (.ok fill) →
    fill.quantity = order.quantity

namespace Paper

variable {b b' : State} {order : Order.Request} {response : Order.Response}

/-- A paper broker without slippage and fees. -/
def Settings.free : Settings :=
  { Settings.standard with slippage := Decimal.zero, fee := Decimal.zero }

/-- An order fails or is rejected and changes nothing, or it is quoted at the last price of its
symbol and settled. -/
theorem place?_ends {s : Settings} {answer : Except String Order.Response}
    (h : place? s b order = some (answer, b')) :
    (b' = b ∧ ((∃ message, answer = .error message) ∨
        ∃ message, answer = .ok (Order.Response.rejection message))) ∨
      ∃ mark quote change response, answer = .ok response ∧
        b.prices.find? order.symbol = some mark ∧ Decimal.zero < order.quantity ∧
        quote? s b mark order = some quote ∧
        cashChange? quote.notional quote.fee order.side = some change ∧
        lacksFunds? b order.side change = some false ∧
        settle? b order quote change = some (response, b') := by
  unfold place? at h
  split at h
  · cases h
    exact Or.inl ⟨rfl, .inl ⟨_, rfl⟩⟩
  · rename_i mark found
    split at h
    · cases h
      exact Or.inl ⟨rfl, .inr ⟨_, rfl⟩⟩
    · rename_i ordered
      obtain ⟨quote, quoted, h⟩ := Option.bind_eq_some_iff.1 h
      obtain ⟨change, changed, h⟩ := Option.bind_eq_some_iff.1 h
      obtain ⟨lacks, covered, h⟩ := Option.bind_eq_some_iff.1 h
      split at h
      · cases h
        exact Or.inl ⟨rfl, .inr ⟨_, rfl⟩⟩
      · rename_i enough
        rw [Bool.not_eq_true] at enough
        obtain ⟨⟨response, books⟩, settled, h⟩ := Option.bind_eq_some_iff.1 h
        cases h
        exact Or.inr ⟨mark, quote, change, response, rfl, found, Decimal.not_le.1 ordered, quoted,
          changed, enough ▸ covered, settled⟩

/-- An order that is not refused is quoted at the last price of its symbol and settled. -/
theorem place?_eq {s : Settings} {answer : Except String Order.Response}
    (h : place? s b order = some (answer, b')) :
    (b' = b ∧ ∀ response, answer = .ok response → response.reference? = none) ∨
      ∃ mark quote change response, answer = .ok response ∧
        b.prices.find? order.symbol = some mark ∧ Decimal.zero < order.quantity ∧
        quote? s b mark order = some quote ∧
        cashChange? quote.notional quote.fee order.side = some change ∧
        lacksFunds? b order.side change = some false ∧
        settle? b order quote change = some (response, b') := by
  refine (place?_ends h).imp_left ?_
  rintro ⟨same, ⟨message, rfl⟩ | ⟨message, rfl⟩⟩
  · refine ⟨same, ?_⟩
    rintro response ⟨⟩
  · refine ⟨same, ?_⟩
    rintro response ⟨⟩
    rfl

theorem settle?_response {quote : Quote} {change : Decimal}
    (h : settle? b order quote change = some (response, b')) :
    response = filled b.serial order quote.price := by
  obtain ⟨cash, -, h⟩ := Option.bind_eq_some_iff.1 h
  obtain ⟨fees, -, h⟩ := Option.bind_eq_some_iff.1 h
  obtain ⟨held, -, h⟩ := Option.bind_eq_some_iff.1 h
  cases h
  rfl

/-- A response of the paper broker names the ordered quantity, or nothing at all. -/
theorem place?_cases {s : Settings} (h : place? s b order = some (.ok response, b')) :
    response.reference? = none ∨
      response.filledVolume = some order.quantity ∧ Decimal.zero < order.quantity := by
  rcases place?_eq h with ⟨-, unnamed⟩ |
    ⟨mark, quote, change, answer, same, -, ordered, -, -, -, settled⟩
  · exact .inl (unnamed response rfl)
  · cases same
    rw [settle?_response settled]
    exact .inr ⟨rfl, ordered⟩

theorem fillsOrders (s : Settings) : (broker s).FillsOrders := by
  intro market market' order response fill placed confirmed
  obtain ⟨identified, -, filled⟩ := Order.confirm?_eq_ok confirmed
  obtain unnamed | ⟨volume, positive⟩ := place?_cases placed
  · obtain ⟨refusal, refused⟩ := Order.identify_of_unnamed unnamed
    rw [refused] at identified
    cases identified
  · rw [Order.fillQuantity?, volume] at filled
    have kept : (some order.quantity).filter Decimal.isPositive = some order.quantity := by
      simp [Option.filter, Decimal.isPositive, positive]
    rw [kept] at filled
    exact (Option.some.inj filled).symm

end Paper

end TradingDesk.Broker
