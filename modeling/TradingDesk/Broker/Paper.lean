import TradingDesk.Broker.Basic
import TradingDesk.Candle
import TradingDesk.Decimal.Arithmetic
import TradingDesk.Identifier
import TradingDesk.Table

/-!
# Paper Broker

The paper broker fills every order at the last price of its symbol, moved against the order by a
slippage, and takes a fee on the value of the fill.  A buy that the cash does not cover is refused,
and so is a quantity that is not positive.  Without a price there is no answer.

A holding is signed, and its average price follows the fills that enlarge it.  Reducing a holding
keeps the average price; crossing zero sets it to the price of the fill.  A holding of zero is
dropped.
-/

namespace TradingDesk.Broker.Paper

/-- Settings of the paper broker. -/
structure Settings where
  initialBalance : Decimal
  slippage : Decimal
  fee : Decimal
  symbols : List String
deriving DecidableEq

namespace Settings

/-- The usual settings. -/
def standard : Settings :=
  { initialBalance := Decimal.const 10000 0
    slippage := Decimal.const 5 4
    fee := Decimal.const 7 3
    symbols := [] }

/-- Reads settings; absent fields take their usual values. -/
def ofJson? (t : Record.Typing) : Json → Option Settings :=
  Record.read? do
    let balance ← Record.withDefault ["initial_balance"] Record.decimal? standard.initialBalance
    let slippage ← Record.withDefault ["slippage_pct"] Record.decimal? standard.slippage
    let fee ← Record.withDefault ["fee_pct"] Record.decimal? standard.fee
    let symbols ← Record.withDefault ["symbols"] (Record.Typing.list? t.text?) standard.symbols
    pure ⟨balance, slippage, fee, symbols⟩

/-- The settings as data. -/
def toJson (s : Settings) : Json :=
  .obj [("initial_balance", .str s.initialBalance.render), ("slippage_pct", .str s.slippage.render),
    ("fee_pct", .str s.fee.render), ("symbols", Json.ofList Json.str s.symbols)]

end Settings

/-- The books of the paper broker. -/
structure State where
  cash : Decimal
  prices : Table Decimal
  holdings : Table Holding
  feesPaid : Decimal
  slippage : Decimal
  serial : Nat

namespace State

/-- The books at the start. -/
def new (s : Settings) : State :=
  { cash := s.initialBalance
    prices := []
    holdings := []
    feesPaid := Decimal.zero
    slippage := s.slippage
    serial := 0 }

/-- Sets the price at which a symbol is filled next. -/
def setPrice (b : State) (symbol : String) (price : Decimal) : State :=
  { b with prices := b.prices.insert symbol price }

/-- Sets the slippage of the next fills. -/
def setSlippage (b : State) (slippage : Decimal) : State :=
  { b with slippage := slippage }

/-- The value of a holding at the last price of its symbol. -/
def value? (b : State) (h : Holding) : Option Decimal :=
  Decimal.mul? h.quantity ((b.prices.find? h.symbol).getD h.averagePrice)

/-- Cash and holdings together. -/
def equity? (b : State) : Option Decimal := do
  let values ← b.holdings.mapM fun entry ↦ b.value? entry.2
  let marked ← Decimal.sum? values
  Decimal.add? b.cash marked

/-- Moves the price of a symbol to the close of its last candle. -/
def follow (b : State) (symbol : String) (candles : List Candle) : State :=
  match candles.getLast? with
  | none => b
  | some candle => b.setPrice symbol candle.close

/-- The books as data, holdings in the order of their symbols. -/
def toJson? (b : State) : Option Json := do
  let equity ← b.equity?
  some <| .obj
    [("cash", .str b.cash.render), ("equity", .str equity.render),
      ("fees", .str b.feesPaid.render),
      ("positions", .arr (b.holdings.sorted.map fun entry ↦ entry.2.toJson))]

/-- What is held of a symbol. -/
def holding (b : State) (symbol : String) : Holding :=
  (b.holdings.find? symbol).getD ⟨symbol, Decimal.zero, Decimal.zero⟩

end State

/-- The price of a fill. -/
def fillPrice? (mark slippage : Decimal) : Side → Option Decimal
  | .buy => do
    let factor ← Decimal.add? Decimal.one slippage
    Decimal.mul? mark factor
  | .sell => do
    let factor ← Decimal.sub? Decimal.one slippage
    Decimal.mul? mark factor

/-- What a fill adds to the cash. -/
def cashChange? (notional fee : Decimal) : Side → Option Decimal
  | .buy => (Decimal.add? notional fee).map Decimal.neg
  | .sell => Decimal.sub? notional fee

/-- What a fill adds to the holding. -/
def signedQuantity (quantity : Decimal) : Side → Decimal
  | .buy => quantity
  | .sell => quantity.neg

/-- The average price of a holding after a fill. -/
def averageAfter? (held : Holding) (change total price : Decimal) : Option Decimal :=
  if held.quantity.isZero || held.quantity.negative == change.negative then do
    let before ← Decimal.mul? held.averagePrice held.quantity.abs
    let added ← Decimal.mul? price change.abs
    let value ← Decimal.add? before added
    Decimal.div? value total.abs
  else if !total.isZero && total.negative != held.quantity.negative then
    some price
  else
    some held.averagePrice

/-- The holding after a fill. -/
def holdingAfter? (held : Holding) (change price : Decimal) : Option Holding := do
  let total ← Decimal.add? held.quantity change
  let average ← averageAfter? held change total price
  some { held with quantity := total, averagePrice := average }

/-- A price, its value and its fee. -/
structure Quote where
  price : Decimal
  notional : Decimal
  fee : Decimal

/-- The fill of an order at the last price of its symbol. -/
def quote? (s : Settings) (b : State) (mark : Decimal) (r : Order.Request) : Option Quote := do
  let price ← fillPrice? mark b.slippage r.side
  let notional ← Decimal.mul? price r.quantity
  let fee ← Decimal.mul? notional s.fee
  some ⟨price, notional, fee⟩

/-- The response to a filled order. -/
def filled (serial : Nat) (r : Order.Request) (price : Decimal) : Order.Response :=
  { Order.Response.empty with
    status := some "filled"
    orderId := some (Identifier.text serial)
    symbol := some r.symbol
    filledVolume := some r.quantity
    averageFilledPrice := some price }

/-- Books a fill that the cash covers. -/
def settle? (b : State) (r : Order.Request) (quote : Quote) (change : Decimal) :
    Option (Order.Response × State) := do
  let cash ← Decimal.add? b.cash change
  let fees ← Decimal.add? b.feesPaid quote.fee
  let held ← holdingAfter? (b.holding r.symbol) (signedQuantity r.quantity r.side) quote.price
  let holdings :=
    if held.quantity.isZero then b.holdings.erase r.symbol else b.holdings.insert r.symbol held
  some
    (filled b.serial r quote.price,
      { b with cash := cash, feesPaid := fees, holdings := holdings, serial := b.serial + 1 })

/-- Whether a change would take the cash of a buyer below zero. -/
def lacksFunds? (b : State) (side : Side) (change : Decimal) : Option Bool :=
  match side with
  | .sell => some false
  | .buy => (Decimal.add? b.cash change).map fun cash ↦ decide (cash < Decimal.zero)

/-- Fills or refuses an order. -/
def place? (s : Settings) (b : State) (r : Order.Request) :
    Option (Except String Order.Response × State) :=
  match b.prices.find? r.symbol with
  | none => some (.error ("No price for " ++ r.symbol), b)
  | some mark =>
    if r.quantity ≤ Decimal.zero then
      some (.ok (Order.Response.rejection ("invalid quantity " ++ r.quantity.render)), b)
    else do
      let quote ← quote? s b mark r
      let change ← cashChange? quote.notional quote.fee r.side
      if ← lacksFunds? b r.side change then
        some (.ok (Order.Response.rejection "insufficient funds"), b)
      else
        let (response, b) ← settle? b r quote change
        some (.ok response, b)

/-- The paper broker. -/
def broker (s : Settings) : Broker State where
  name := "paper"
  supports := covers s.symbols
  place := place? s
  balance b := b.cash

end TradingDesk.Broker.Paper
