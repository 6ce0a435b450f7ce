import TradingDesk.Decimal.Binary
import TradingDesk.Order.Side
import TradingDesk.Record.Reader

/-!
# Positions

A position is what a confirmed entry opened: a side, the price and quantity of the fill, the price
levels at which the remainder is closed, one flag per profit level, and the fraction of the
quantity at entry that is still open.  Exits name a fraction of the quantity at entry and never
take more than what is open; a position counts as closed when less than one hundredth remains.
-/

namespace TradingDesk

/-- An open position of a user in a symbol. -/
structure Position where
  user : String
  symbol : String
  side : Side
  entryPrice : Decimal
  quantity : Decimal
  stopLoss : Decimal
  takeProfit : Decimal
  ladderHits : List Bool
  remaining : Decimal
  entryOrderId : String
  openedAt : Instant
deriving DecidableEq

namespace Position

/-- The remaining fraction below which a position counts as closed. -/
def closedThreshold : Decimal :=
  Decimal.const 1 2

/-- The gain in price from entry to `price`, seen from the position's side. -/
def gain? (p : Position) (price : Decimal) : Option Decimal :=
  match p.side with
  | .buy => Decimal.sub? price p.entryPrice
  | .sell => Decimal.sub? p.entryPrice price

/-- The return at a price before fees; zero when the entry price is zero. -/
def grossReturn? (p : Position) (price : Decimal) : Option Decimal :=
  if p.entryPrice.isZero then some Decimal.zero
  else do
    let gain ← p.gain? price
    Decimal.div? gain p.entryPrice

/-- The quantity still held. -/
def remainingQuantity? (p : Position) : Option Decimal :=
  Decimal.mul? p.quantity p.remaining

/-- The quantity to trade for an exit of a fraction of the quantity at entry. -/
def exitQuantity? (p : Position) (fraction : Decimal) : Option Decimal :=
  Decimal.mul? p.quantity (fraction.min p.remaining)

/-- The fraction that an exit of `fraction` removes. -/
def removable (p : Position) (fraction : Decimal) : Decimal :=
  (fraction.min p.remaining).max Decimal.zero

/-- The position after an exit of a fraction of the quantity at entry. -/
def reduce? (p : Position) (fraction : Decimal) : Option Position := do
  let remaining ← Decimal.sub? p.remaining (p.removable fraction)
  some { p with remaining := remaining }

/-- The result of closing a quantity at a price. -/
def profit? (p : Position) (quantity price : Decimal) : Option Decimal := do
  let gain ← p.gain? price
  Decimal.mul? gain quantity

/-- Whether the stop is reached at a price. -/
def stopHit (p : Position) (price : Decimal) : Bool :=
  match p.side with
  | .buy => decide (price ≤ p.stopLoss)
  | .sell => decide (p.stopLoss ≤ price)

/-- Whether the target is reached at a price. -/
def takeProfitHit (p : Position) (price : Decimal) : Bool :=
  match p.side with
  | .buy => decide (p.takeProfit ≤ price)
  | .sell => decide (price ≤ p.takeProfit)

/-- Whether the position counts as closed. -/
def isClosed (p : Position) : Bool :=
  decide (p.remaining < closedThreshold)

/-- The value of what is still held at the entry price. -/
def notional? (p : Position) : Option Decimal := do
  let quantity ← p.remainingQuantity?
  Decimal.mul? quantity p.entryPrice

/-- The position with one profit level marked as fired. -/
def markHit (p : Position) (index : Nat) : Position :=
  { p with ladderHits := p.ladderHits.set index true }

/-- The position with flags for exactly `levels` profit levels, new ones clear. -/
def resizeHits (p : Position) (levels : Nat) : Position :=
  { p with
    ladderHits := p.ladderHits.take levels ++
      List.replicate (levels - p.ladderHits.length) false }

/-! ## Text -/

/-- Reads a position. -/
def ofJson? : Json → Option Position :=
  let text? := Record.Typing.text? .strict
  Record.read? do
    let user ← Record.required ["user_id"] text?
    let symbol ← Record.required ["symbol"] text?
    let side ← Record.required ["side"] Side.ofJson?
    let entryPrice ← Record.required ["entry_price"] Record.decimal?
    let quantity ← Record.required ["quantity"] Record.decimal?
    let stopLoss ← Record.required ["stop_loss"] Record.decimal?
    let takeProfit ← Record.required ["take_profit"] Record.decimal?
    let ladderHits ← Record.required ["ladder_hits"]
      (Record.Typing.list? (Record.Typing.flag? .strict))
    let remaining ← Record.required ["remaining_size"] Record.decimal?
    let entryOrderId ← Record.required ["entry_order_id"] text?
    let openedAt ← Record.required ["opened_at"] Record.instant?
    pure ⟨user, symbol, side, entryPrice, quantity, stopLoss, takeProfit, ladderHits, remaining,
      entryOrderId, openedAt⟩

/-- The fields of a position. -/
def toJson (p : Position) : Json :=
  .obj [("user_id", .str p.user), ("symbol", .str p.symbol), ("side", p.side.toJson),
    ("entry_price", .str p.entryPrice.render), ("quantity", .str p.quantity.render),
    ("stop_loss", .str p.stopLoss.render), ("take_profit", .str p.takeProfit.render),
    ("ladder_hits", Json.ofList Json.bool p.ladderHits),
    ("remaining_size", .str p.remaining.render), ("entry_order_id", .str p.entryOrderId),
    ("opened_at", .str p.openedAt.render)]

@[simp]
theorem length_ladderHits_markHit (p : Position) (index : Nat) :
    (p.markHit index).ladderHits.length = p.ladderHits.length := by
  simp [markHit]

theorem length_ladderHits_resizeHits (p : Position) (levels : Nat) :
    (p.resizeHits levels).ladderHits.length = levels := by
  simp only [resizeHits, List.length_append, List.length_take, List.length_replicate]
  omega

end Position

end TradingDesk
