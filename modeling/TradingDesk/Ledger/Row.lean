import TradingDesk.Json.Reader
import TradingDesk.Json.Writer
import TradingDesk.Position
import TradingDesk.Table
import TradingDesk.Trade

/-!
# Ledger Rows

A row is either booked by the desk, with typed columns, or was put in from outside as text columns.
Reading a booked row gives back what was booked.  Reading a text row parses its columns, and the
first column that does not parse is the error: the side of a trade comes before its amounts, and
the flags of a position come before its side.  A kind other than the exact word for an exit is an
entry.
-/

namespace TradingDesk.Ledger

/-- The operations of a ledger that an outage can affect. -/
inductive Call where
  | recordBuy
  | recordSell
  | openPosition
  | updateRemaining
  | closePosition
  | openPositions
deriving DecidableEq, Repr

/-- The name of an operation. -/
def Call.name : Call → String
  | recordBuy => "record_buy"
  | recordSell => "record_sell"
  | openPosition => "open_position"
  | updateRemaining => "update_position_remaining"
  | closePosition => "close_position"
  | openPositions => "get_open_positions"

/-- The operation of a name. -/
def Call.ofName? (name : String) : Option Call :=
  [recordBuy, recordSell, openPosition, updateRemaining, closePosition, openPositions].find?
    fun call ↦ call.name == name

/-- Why a ledger operation failed. -/
inductive Error where
  | outage (call : Call)
  | wrongSide (expected : Side)
  | duplicateTrade (id : Trade.Id)
  | unreadableTrades
  | unreadablePositions
  | badDecimal (text : String)
  | badSide (text : String)
  | badFlags
  | badPlan
deriving DecidableEq

/-- The text of a failure. -/
def Error.message : Error → String
  | outage call => call.name ++ " failed"
  | wrongSide .buy => "record_buy called with a sell fill"
  | wrongSide .sell => "record_sell called with a buy fill"
  | duplicateTrade id => "Failed to record trade " ++ id.text
  | unreadableTrades => "Failed to fetch trades"
  | unreadablePositions => "Failed to fetch positions"
  | badDecimal text => "Invalid decimal in database: " ++ text
  | badSide text => "Invalid side in database: " ++ text
  | badFlags => "Invalid ladder flags"
  | badPlan => "Invalid stored plan"

/-! ## Columns -/

/-- Reads an amount column. -/
def readDecimal (text : String) : Except Error Decimal :=
  match Decimal.parse? text with
  | some d => .ok d
  | none => .error (.badDecimal text)

/-- Reads a side column. -/
def readSide (text : String) : Except Error Side :=
  match Side.parse? text with
  | some side => .ok side
  | none => .error (.badSide text)

/-- Reads a column of profit-level flags. -/
def readFlags (text : String) : Except Error (List Bool) :=
  match (Json.parse? text).bind (Record.Typing.list? (Record.Typing.flag? .strict)) with
  | some flags => .ok flags
  | none => .error .badFlags

/-- The text of profit-level flags. -/
def flagsText (flags : List Bool) : String :=
  (Json.ofList Json.bool flags).compact

/-! ## Trade rows -/

/-- The text columns of a trade. -/
structure RawTrade where
  id : Option String
  user : String
  symbol : String
  side : String
  kind : String
  quantity : String
  price : String
  fee : String
  orderId : String
  profit : String
  reason : String
  createdAt : String

/-- The row of named columns; a column without a usual value has to be there. -/
def RawTrade.ofColumns? (columns : Table String) : Option RawTrade := do
  let column (name : String) : Option String := columns.find? name
  some
    { id := column "id"
      user := ← column "user_id"
      symbol := ← column "symbol"
      side := ← column "side"
      kind := ← column "kind"
      quantity := ← column "quantity"
      price := ← column "price"
      fee := (column "fee").getD "0"
      orderId := ← column "order_id"
      profit := (column "realized_pnl").getD "0"
      reason := (column "reason").getD ""
      createdAt := ← column "created_at" }

/-- A row of the table of trades. -/
inductive TradeRow where
  | booked (trade : Trade)
  | raw (columns : RawTrade)

namespace TradeRow

/-- The user of a row. -/
def user : TradeRow → String
  | booked trade => trade.user
  | raw columns => columns.user

/-- The name in a row, when it has one. -/
def id? : TradeRow → Option Trade.Id
  | booked trade => some trade.id
  | raw columns => columns.id.map .given

/-- The text by which rows are ordered in time. -/
def timeText : TradeRow → String
  | booked trade => trade.timestamp.storedText
  | raw columns => columns.createdAt

/-- Whether the name and the time of a row can be read. -/
def isReadable : TradeRow → Bool
  | booked _ => true
  | raw columns => columns.id.isSome && (Instant.parseStored? columns.createdAt).isSome

/-- The trade of a row. -/
def read : TradeRow → Except Error Trade
  | booked trade => .ok trade
  | raw columns => do
    let side ← readSide columns.side
    let kind : Trade.Kind := if columns.kind = "exit" then .exit else .entry
    let quantity ← readDecimal columns.quantity
    let price ← readDecimal columns.price
    let fee ← readDecimal columns.fee
    let profit ← readDecimal columns.profit
    return ⟨.given (columns.id.getD ""), columns.user, columns.symbol, side, kind, quantity, price,
      fee, columns.orderId, profit, columns.reason,
      (Instant.parseStored? columns.createdAt).getD Instant.epoch⟩

@[simp]
theorem read_booked (trade : Trade) : (booked trade).read = .ok trade := rfl

end TradeRow

/-! ## Position rows -/

/-- The text columns of a position. -/
structure RawPosition where
  user : String
  symbol : String
  side : String
  entryPrice : String
  quantity : String
  stopLoss : String
  takeProfit : String
  remaining : String
  ladderHits : String
  entryOrderId : String
  openedAt : String

/-- The row of named columns; a column without a usual value has to be there. -/
def RawPosition.ofColumns? (columns : Table String) : Option RawPosition := do
  let column (name : String) : Option String := columns.find? name
  some
    { user := ← column "user_id"
      symbol := ← column "symbol"
      side := ← column "side"
      entryPrice := ← column "entry_price"
      quantity := ← column "quantity"
      stopLoss := ← column "stop_loss"
      takeProfit := ← column "take_profit"
      remaining := (column "remaining_size").getD "1"
      ladderHits := (column "ladder_hits").getD "[]"
      entryOrderId := ← column "entry_order_id"
      openedAt := ← column "opened_at" }

/-- What a row of the table of positions holds. -/
inductive PositionContent where
  | booked (position : Position)
  | raw (columns : RawPosition)

namespace PositionContent

/-- The user of a row. -/
def user : PositionContent → String
  | booked position => position.user
  | raw columns => columns.user

/-- The symbol of a row. -/
def symbol : PositionContent → String
  | booked position => position.symbol
  | raw columns => columns.symbol

/-- Whether the time of a row can be read. -/
def isReadable : PositionContent → Bool
  | booked _ => true
  | raw columns => (Instant.parseStored? columns.openedAt).isSome

/-- The position of a row. -/
def read : PositionContent → Except Error Position
  | booked position => .ok position
  | raw columns => do
    let flags ← readFlags columns.ladderHits
    let side ← readSide columns.side
    let entryPrice ← readDecimal columns.entryPrice
    let quantity ← readDecimal columns.quantity
    let stopLoss ← readDecimal columns.stopLoss
    let takeProfit ← readDecimal columns.takeProfit
    let remaining ← readDecimal columns.remaining
    return ⟨columns.user, columns.symbol, side, entryPrice, quantity, stopLoss, takeProfit, flags,
      remaining, columns.entryOrderId,
      (Instant.parseStored? columns.openedAt).getD Instant.epoch⟩

/-- The row with another remaining fraction and other flags. -/
def withProgress (content : PositionContent) (remaining : Decimal) (flags : List Bool) :
    PositionContent :=
  match content with
  | booked position => booked { position with remaining := remaining, ladderHits := flags }
  | raw columns =>
    raw { columns with remaining := remaining.render, ladderHits := flagsText flags }

@[simp]
theorem read_booked (position : Position) : (booked position).read = .ok position := rfl

@[simp]
theorem user_withProgress (content : PositionContent) (remaining : Decimal) (flags : List Bool) :
    (content.withProgress remaining flags).user = content.user := by
  cases content <;> rfl

@[simp]
theorem symbol_withProgress (content : PositionContent) (remaining : Decimal) (flags : List Bool) :
    (content.withProgress remaining flags).symbol = content.symbol := by
  cases content <;> rfl

end PositionContent

/-- A row of the table of positions; it stays after the position is closed. -/
structure PositionRow where
  content : PositionContent
  exitPrice : Option Decimal
  closed : Bool

namespace PositionRow

/-- Whether the row is an open position of a user in a symbol. -/
def isOpenFor (row : PositionRow) (user symbol : String) : Bool :=
  !row.closed && row.content.user == user && row.content.symbol == symbol

/-- The row after its position was closed at a price. -/
def close (row : PositionRow) (price : Decimal) : PositionRow :=
  { row with exitPrice := some price, closed := true }

end PositionRow

end TradingDesk.Ledger
