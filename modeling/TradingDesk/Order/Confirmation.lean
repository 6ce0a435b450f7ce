import TradingDesk.Decimal.Arithmetic
import TradingDesk.Order.Response

/-!
# Order Confirmation

A response becomes a fill only when it passes every check: no error text, no status that means
failure, an identifier, a status that means a live or completed order, the symbol that was asked
for, and a positive price.  The checks run in this order, and the first one that fails is the
refusal.  Symbols are compared by their letters and digits alone, in upper case.

The price is the first one present among the average price, the filled price, the mean of the fills
weighted by quantity, and the plain price.  The quantity is the filled volume when it is positive,
else the total of the fills when that is positive, else the quantity that was asked for.
-/

namespace TradingDesk.Order

/-- Why a response is not accepted. -/
inductive Refusal where
  | brokerError (text : String)
  | failedStatus (status : String)
  | noReference
  | unexpectedStatus (status : String)
  | missingStatus
  | wrongSymbol (expected actual : String)
  | badPrice (price : Decimal)
  | noPrice
deriving DecidableEq

namespace Refusal

/-- The class of a refusal. -/
def kind : Refusal → String
  | brokerError _ | failedStatus _ | unexpectedStatus _ | missingStatus => "order_rejected"
  | noReference => "invalid_txid"
  | wrongSymbol _ _ => "broker_mismatch"
  | badPrice _ | noPrice => "invalid_fill_price"

/-- The text of a refusal. -/
def message : Refusal → String
  | brokerError text => "Order rejected: " ++ text
  | failedStatus status => "Order rejected: broker status " ++ status
  | unexpectedStatus status => "Order rejected: unexpected status " ++ status
  | missingStatus => "Order rejected: missing status"
  | noReference => "Broker returned no order id or txid"
  | wrongSymbol expected actual =>
    "Broker response for " ++ actual ++ " does not match requested " ++ expected
  | badPrice price => "Invalid fill price: non-positive price " ++ price.render
  | noPrice => "Invalid fill price: no price in response"

/-- A refusal as data. -/
def toJson (r : Refusal) : Json :=
  .failure r.kind r.message

/-- Whether the broker itself turned the order down. -/
def isRejection : Refusal → Bool
  | brokerError _ | failedStatus _ | unexpectedStatus _ | missingStatus => true
  | _ => false

end Refusal

/-- Statuses of a live or completed order. -/
def acceptedStatuses : List String :=
  ["open", "closed", "filled", "pending"]

/-- Statuses that mean failure even beside an identifier. -/
def failedStatuses : List String :=
  ["error", "rejected", "failed", "canceled", "cancelled", "expired"]

/-- The letters and digits of a symbol in upper case. -/
def normalizeSymbol (symbol : String) : String :=
  String.ofList ((symbol.toList.filter Char.isAlphanum).map Char.toUpper)

/-- A response that passed every check. -/
structure Confirmed where
  orderId : String
  status : String
  price : Decimal
  quantity : Decimal
deriving DecidableEq

/-- A confirmed order as data. -/
def Confirmed.toJson (c : Confirmed) : Json :=
  .obj [("order_id", .str c.orderId), ("status", .str c.status), ("price", .str c.price.render),
    ("quantity", .str c.quantity.render)]

/-- The identifier and the status of a response, or the first refusal before its price. -/
def identify (r : Response) (symbol : String) : Except Refusal (String × String) := do
  if let some text := r.errorMessage? then
    throw (.brokerError text)
  if let some status := r.normalizedStatus? then
    if status ∈ failedStatuses then
      throw (.failedStatus status)
  let some reference := r.reference? | throw .noReference
  let some status := r.normalizedStatus? | throw .missingStatus
  if status ∉ acceptedStatuses then
    throw (.unexpectedStatus status)
  if let some actual := r.symbol then
    if normalizeSymbol actual ≠ normalizeSymbol symbol then
      throw (.wrongSymbol symbol actual)
  return (reference, status)

/-- The total quantity of the fills. -/
def filledTotal? (fills : List Fill) : Option Decimal :=
  Decimal.sum? (fills.map (·.quantity))

/-- The mean price of the fills weighted by quantity, when their total is positive. -/
def weightedPrice? (fills : List Fill) : Option (Option Decimal) := do
  let total ← filledTotal? fills
  if total ≤ Decimal.zero then
    some none
  else
    let amounts ← fills.mapM fun f ↦ Decimal.mul? f.price f.quantity
    let mean ← Decimal.div? (← Decimal.sum? amounts) total
    some (some mean)

/-- The first price present in a response. -/
def priceCandidate? (r : Response) : Option (Option Decimal) :=
  match r.averageFilledPrice <|> r.filledPrice with
  | some price => some (some price)
  | none => do
    let weighted ← weightedPrice? r.fills
    some (weighted <|> r.price)

/-- The price of a response, which has to be positive. -/
def fillPrice? (r : Response) : Option (Except Refusal Decimal) := do
  match ← priceCandidate? r with
  | none => some (.error .noPrice)
  | some price =>
    if Decimal.zero < price then some (.ok price) else some (.error (.badPrice price))

/-- The views of a response that confirmation starts from, as data. -/
def Response.views? (r : Response) : Option Json := do
  let price := match ← fillPrice? r with
    | .ok price => .str price.render
    | .error refusal => refusal.toJson
  some <| .obj
    [("order_ref", Json.ofOption Json.str r.reference?),
      ("status", Json.ofOption Json.str r.normalizedStatus?),
      ("error_message", Json.ofOption Json.str r.errorMessage?), ("fill_price", price)]

/-- The quantity that a response confirms, given the quantity that was asked for. -/
def fillQuantity? (r : Response) (requested : Decimal) : Option Decimal :=
  match r.filledVolume.filter Decimal.isPositive with
  | some volume => some volume
  | none => do
    let total ← filledTotal? r.fills
    some (if Decimal.zero < total then total else requested)

/-- Checks a response to an order and extracts the fill. -/
def confirm? (r : Response) (symbol : String) (requested : Decimal) :
    Option (Except Refusal Confirmed) :=
  match identify r symbol with
  | .error refusal => some (.error refusal)
  | .ok (reference, status) => do
    match ← fillPrice? r with
    | .error refusal => some (.error refusal)
    | .ok price =>
      let quantity ← fillQuantity? r requested
      some (.ok ⟨reference, status, price, quantity⟩)

end TradingDesk.Order
