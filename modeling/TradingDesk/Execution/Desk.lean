import TradingDesk.Broker.Basic
import TradingDesk.Execution.Book
import TradingDesk.Execution.Error
import TradingDesk.Execution.KillSwitch
import TradingDesk.Ledger.Basic

/-!
# Desk

The desk is everything that execution changes: the state of the broker, the book of open positions,
the ledger, the kill switch, and the list of all orders that were sent.  It draws the names of
trades from a counter, and its clock moves with every trade that it books, so that no two trades
share a name or a time.

An operation leads from a desk to an outcome, which is the desk afterwards together with a result or
a failure.  A failure does not undo what happened before it.  When amounts leave their range there
is no outcome.
-/

namespace TradingDesk.Execution

/-- The broker, the open positions and the records. -/
structure Desk (σ : Type) where
  market : σ
  book : Book
  ledger : Ledger
  killSwitch : KillSwitch
  sent : List Order.Request
  serial : Nat
  clock : Instant

/-- The desk after an operation, and what the operation gave. -/
structure Outcome (σ α : Type) where
  desk : Desk σ
  result : Except Error α

namespace Outcome

variable {σ α β : Type}

/-- An operation that succeeded. -/
def done (desk : Desk σ) (value : α) : Outcome σ α :=
  ⟨desk, .ok value⟩

/-- An operation that failed. -/
def failed (desk : Desk σ) (error : Error) : Outcome σ α :=
  ⟨desk, .error error⟩

/-- Goes on with a result, unless there is none. -/
def andThen? (o : Outcome σ α) (next : Desk σ → α → Option (Outcome σ β)) :
    Option (Outcome σ β) :=
  match o.result with
  | .error e => some (failed o.desk e)
  | .ok a => next o.desk a

/-- The outcome with another form of its result. -/
def map (f : α → β) (o : Outcome σ α) : Outcome σ β :=
  ⟨o.desk, o.result.map f⟩

end Outcome

namespace Desk

variable {σ : Type}

/-- A desk without positions, orders and records. -/
def new (market : σ) (killSwitch : KillSwitch) (clock : Instant) : Desk σ :=
  { market := market
    book := []
    ledger := Ledger.empty
    killSwitch := killSwitch
    sent := []
    serial := 0
    clock := clock }

/-- The same broker and records under a new book and a new kill switch. -/
def restarted (d : Desk σ) (killSwitch : KillSwitch) : Desk σ :=
  { d with book := [], killSwitch := killSwitch }

/-! ## Orders -/

/-- Sends an order to the broker and checks its answer. -/
def fill? (broker : Broker σ) (d : Desk σ) (order : Order.Request) :
    Option (Outcome σ Order.Confirmed) := do
  let (answer, market) ← broker.place d.market order
  let d := { d with market := market, sent := d.sent ++ [order] }
  match answer with
  | .error text => some (.failed d (.connection text))
  | .ok response =>
    match ← Order.confirm? response order.symbol order.quantity with
    | .error refusal => some (.failed d (.refused refusal))
    | .ok fill => some (.done d fill)

/-! ## Records -/

/-- The trade that books a fill of a position. -/
def trade (d : Desk σ) (p : Position) (side : Side) (kind : Trade.Kind) (fill : Order.Confirmed)
    (fee profit : Decimal) (reason : String) : Trade :=
  { id := .drawn d.serial
    user := p.user
    symbol := p.symbol
    side := side
    kind := kind
    quantity := fill.quantity
    price := fill.price
    fee := fee
    orderId := fill.orderId
    profit := profit
    reason := reason
    timestamp := d.clock }

/-- The desk with the next name and time. -/
def advance (d : Desk σ) : Desk σ :=
  { d with serial := d.serial + 1, clock := d.clock.next }

/-- Records a trade and then what became of its position. -/
def recordInto (l : Ledger) (trade : Trade) (next : Ledger → Except Ledger.Error Ledger) :
    Ledger × Except Ledger.Error Unit :=
  match l.recordFill trade with
  | .error e => (l, .error e)
  | .ok l =>
    match next l with
    | .error e => (l, .error e)
    | .ok l => (l, .ok ())

/-- Books a trade under the next name and time, with what became of its position. -/
def bookTrade {α : Type} (d : Desk σ) (trade : Trade)
    (next : Ledger → Except Ledger.Error Ledger) (value : α) : Outcome σ α :=
  let (ledger, written) := recordInto d.ledger trade next
  let d := { d.advance with ledger := ledger }
  match written with
  | .error e => .failed d (.ledger e)
  | .ok () => .done d value

@[simp]
theorem killSwitch_restarted (d : Desk σ) (k : KillSwitch) :
    (d.restarted k).killSwitch = k := rfl

end Desk

end TradingDesk.Execution
