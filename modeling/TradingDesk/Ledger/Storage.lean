import TradingDesk.Ledger.Basic

/-!
# Storing a Ledger

A ledger is stored as one text.  Every row is stored by its columns, so that reading the text gives
rows of text columns, which are parsed when they are asked for.  The empty text stands for a ledger
without records.  Outages are not stored.
-/

namespace TradingDesk.Ledger

/-! ## Columns of rows -/

/-- The columns of a trade of text columns. -/
def RawTrade.columns (r : RawTrade) : Table String :=
  (r.id.map fun id ↦ ("id", id)).toList ++
    [("user_id", r.user), ("symbol", r.symbol), ("side", r.side), ("kind", r.kind),
      ("quantity", r.quantity), ("price", r.price), ("fee", r.fee), ("order_id", r.orderId),
      ("realized_pnl", r.profit), ("reason", r.reason), ("created_at", r.createdAt)]

/-- A booked trade as text columns. -/
def RawTrade.ofTrade (t : Trade) : RawTrade :=
  { id := some t.id.text
    user := t.user
    symbol := t.symbol
    side := t.side.name
    kind := t.kind.name
    quantity := t.quantity.render
    price := t.price.render
    fee := t.fee.render
    orderId := t.orderId
    profit := t.profit.render
    reason := t.reason
    createdAt := t.timestamp.storedText }

/-- The columns of a trade. -/
def TradeRow.columns : TradeRow → Table String
  | booked trade => (RawTrade.ofTrade trade).columns
  | raw r => r.columns

/-- The columns of a position of text columns. -/
def RawPosition.columns (r : RawPosition) : Table String :=
  [("user_id", r.user), ("symbol", r.symbol), ("side", r.side), ("entry_price", r.entryPrice),
    ("quantity", r.quantity), ("stop_loss", r.stopLoss), ("take_profit", r.takeProfit),
    ("remaining_size", r.remaining), ("ladder_hits", r.ladderHits),
    ("entry_order_id", r.entryOrderId), ("opened_at", r.openedAt)]

/-- A booked position as text columns. -/
def RawPosition.ofPosition (p : Position) : RawPosition :=
  { user := p.user
    symbol := p.symbol
    side := p.side.name
    entryPrice := p.entryPrice.render
    quantity := p.quantity.render
    stopLoss := p.stopLoss.render
    takeProfit := p.takeProfit.render
    remaining := p.remaining.render
    ladderHits := flagsText p.ladderHits
    entryOrderId := p.entryOrderId
    openedAt := p.openedAt.storedText }

/-- The columns of what a position row holds. -/
def PositionContent.columns : PositionContent → Table String
  | booked position => (RawPosition.ofPosition position).columns
  | raw r => r.columns

/-- The columns of a position row; that of the closing time is present in closed rows only. -/
def PositionRow.columns (row : PositionRow) : Table String :=
  row.content.columns ++ (row.exitPrice.map fun price ↦ ("exit_price", price.render)).toList ++
    if row.closed then [("closed_at", "")] else []

/-! ## The text -/

/-- Named texts as data. -/
def tableJson (t : Table String) : Json :=
  .obj (t.map fun (name, text) ↦ (name, .str text))

/-- Reads named texts; a null is no text. -/
def tableOfJson? (j : Json) : Option (Table String) := do
  let entries ← Record.mapOf? (Record.Typing.optional? (Record.Typing.text? .strict)) j
  some (entries.filterMap fun (name, text) ↦ text.map (name, ·))

/-- The text under which a ledger is stored. -/
def storedText (l : Ledger) : String :=
  Json.compact <| .obj
    [("trades", Json.ofList (fun row ↦ tableJson (TradeRow.columns row)) l.trades),
      ("positions", Json.ofList (fun row ↦ tableJson (PositionRow.columns row)) l.positions),
      ("risk_states", tableJson l.riskStates), ("plans", Json.ofList Json.str l.plans)]

/-- Reads a ledger of its four tables. -/
def ofJson? : Json → Option Ledger :=
  Record.read? do
    let trades ← Record.required ["trades"] (Record.Typing.list? tableOfJson?)
    let positions ← Record.required ["positions"] (Record.Typing.list? tableOfJson?)
    let states ← Record.required ["risk_states"] tableOfJson?
    let plans ← Record.required ["plans"] (Record.Typing.list? (Record.Typing.text? .strict))
    let records : Option Ledger := do
      let l ← trades.foldlM insertRawTrade empty
      positions.foldlM insertRawPosition l
    let l ← records
    pure { l with riskStates := states, plans := plans }

/-- Reads a stored ledger. -/
def parse? (text : String) : Option Ledger :=
  if text.isEmpty then some empty else (Json.parse? text).bind ofJson?

end TradingDesk.Ledger
