import TradingDesk.Ledger.Row
import TradingDesk.Table

/-!
# Ledger

The ledger keeps trades, positions, risk states and allocation plans.  Trades are named uniquely and
are read newest first, in the order of the text of their time, equal times in the order in which
they were recorded.  Positions keep their rows after they are closed; progress and closing act on
every open row of the user in the symbol.  Risk states are one text per user, and plans are an
append-only list of texts.

A buy and a sell are recorded by separate operations, each of which refuses the other side.  During
an outage the operations named in it fail and change nothing.
-/

namespace TradingDesk

/-- The records of the desk. -/
structure Ledger where
  trades : List Ledger.TradeRow
  positions : List Ledger.PositionRow
  riskStates : Table String
  plans : List String
  outages : List Ledger.Call

namespace Ledger

/-- A ledger without records. -/
def empty : Ledger := ⟨[], [], [], [], []⟩

instance : Inhabited Ledger := ⟨empty⟩

/-- The result of an operation that does not take place during an outage. -/
def guarded {α : Type} (l : Ledger) (call : Call) (result : Except Error α) : Except Error α :=
  if call ∈ l.outages then .error (.outage call) else result

/-- Whether a row is of the user asked for, if one is. -/
def matchesUser (user : Option String) (owner : String) : Bool :=
  match user with
  | none => true
  | some u => owner == u

/-! ## Trades -/

/-- Adds a trade row unless its name is taken. -/
def insertTrade (l : Ledger) (row : TradeRow) : Option Ledger :=
  if row.id?.isSome && l.trades.any (·.id? == row.id?) then none
  else some { l with trades := l.trades ++ [row] }

/-- Adds a trade of text columns, when they fill a row. -/
def insertRawTrade (l : Ledger) (columns : Table String) : Option Ledger := do
  let row ← RawTrade.ofColumns? columns
  l.insertTrade (.raw row)

/-- Records a fill of the given side. -/
def record (l : Ledger) (expected : Side) (call : Call) (trade : Trade) : Except Error Ledger :=
  l.guarded call <|
    if trade.side ≠ expected then .error (.wrongSide expected)
    else match l.insertTrade (.booked trade) with
      | some l => .ok l
      | none => .error (.duplicateTrade trade.id)

/-- Records a buy. -/
def recordBuy (l : Ledger) (trade : Trade) : Except Error Ledger :=
  l.record .buy .recordBuy trade

/-- Records a sell. -/
def recordSell (l : Ledger) (trade : Trade) : Except Error Ledger :=
  l.record .sell .recordSell trade

/-- Records a fill by the operation of its side. -/
def recordFill (l : Ledger) (trade : Trade) : Except Error Ledger :=
  match trade.side with
  | .buy => l.recordBuy trade
  | .sell => l.recordSell trade

/-- The first rows of a list; a negative limit takes all of them. -/
def limited {α : Type} (limit : Int) (rows : List α) : List α :=
  if limit < 0 then rows else rows.take limit.toNat

/-- The rows of trades, newest first. -/
def tradeRows (l : Ledger) (user : Option String) : List TradeRow :=
  (l.trades.filter (matchesUser user ·.user)).mergeSort fun a b ↦ decide (b.timeText ≤ a.timeText)

/-- The trades, newest first. -/
def readTrades (l : Ledger) (user : Option String) (limit : Int) : Except Error (List Trade) :=
  let rows := limited limit (l.tradeRows user)
  if rows.all TradeRow.isReadable then rows.mapM TradeRow.read else .error .unreadableTrades

/-! ## Positions -/

/-- Adds an open position. -/
def openPosition (l : Ledger) (position : Position) : Except Error Ledger :=
  l.guarded .openPosition <|
    .ok { l with positions := l.positions ++ [⟨.booked position, none, false⟩] }

/-- Adds a position of text columns, when they fill a row; with a closing time it is closed. -/
def insertRawPosition (l : Ledger) (columns : Table String) : Option Ledger := do
  let row ← RawPosition.ofColumns? columns
  let closed := (columns.find? "closed_at").isSome
  some { l with positions := l.positions ++ [⟨.raw row, none, closed⟩] }

/-- Changes the open rows of a user in a symbol. -/
def mapOpen (l : Ledger) (user symbol : String) (f : PositionRow → PositionRow) : Ledger :=
  { l with positions := l.positions.map fun row ↦ if row.isOpenFor user symbol then f row else row }

/-- Stores the remaining fraction and the flags of a position. -/
def updateRemaining (l : Ledger) (position : Position) : Except Error Ledger :=
  l.guarded .updateRemaining <|
    .ok <| l.mapOpen position.user position.symbol fun row ↦
      { row with content := row.content.withProgress position.remaining position.ladderHits }

/-- Marks a position as closed at a price. -/
def closePosition (l : Ledger) (user symbol : String) (price : Decimal) : Except Error Ledger :=
  l.guarded .closePosition <| .ok <| l.mapOpen user symbol (·.close price)

/-- The rows of open positions in the order of opening. -/
def openRows (l : Ledger) (user : Option String) : List PositionRow :=
  l.positions.filter fun row ↦ !row.closed && matchesUser user row.content.user

/-- The open positions in the order of opening. -/
def readPositions (l : Ledger) (user : Option String) : Except Error (List Position) :=
  let contents := (l.openRows user).map (·.content)
  if contents.all PositionContent.isReadable then contents.mapM PositionContent.read
  else .error .unreadablePositions

/-- The open positions, unless there is an outage. -/
def openPositions (l : Ledger) (user : Option String) : Except Error (List Position) :=
  l.guarded .openPositions (l.readPositions user)

/-! ## Risk states and plans -/

/-- Stores the risk state of a user in place of an earlier one. -/
def saveRiskState (l : Ledger) (user state : String) : Ledger :=
  { l with riskStates := l.riskStates.insert user state }

/-- The stored risk states in the order of users. -/
def sortedRiskStates (l : Ledger) : List (String × String) :=
  l.riskStates.sorted

/-- Adds the text of a plan. -/
def savePlan (l : Ledger) (plan : String) : Ledger :=
  { l with plans := l.plans ++ [plan] }

/-- The texts of plans, newest first. -/
def recentPlans (l : Ledger) (limit : Int) : List String :=
  limited limit l.plans.reverse

/-! ## Views -/

@[simp]
theorem guarded_of_no_outage {α : Type} {l : Ledger} (h : l.outages = []) (call : Call)
    (result : Except Error α) : l.guarded call result = result := by
  simp [guarded, h]

@[simp]
theorem trades_mapOpen (l : Ledger) (user symbol : String) (f : PositionRow → PositionRow) :
    (l.mapOpen user symbol f).trades = l.trades := rfl

@[simp]
theorem openRows_empty (user : Option String) : empty.openRows user = [] := rfl

end Ledger

end TradingDesk
