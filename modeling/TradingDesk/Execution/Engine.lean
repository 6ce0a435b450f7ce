import TradingDesk.Execution.Desk
import TradingDesk.Execution.Settings

/-!
# Execution Engine

Entries pass a fixed sequence of checks.  Before the order: the kill switch, the symbol, the size
and the price, and that no position of the user in the symbol is open.  After it: the confirmation
of the broker's answer, and the slippage of the price.  A fill that slipped too far is traded back
at once and opens nothing.  Only what passed every check is put into the book and the ledger.

Exits need a fraction between zero and one and an open position, and are never stopped by the kill
switch.  The position shrinks by what was filled, never by more than the fraction that was asked
for.  The profit ladder exits level by level.  A forced exit is tried once more when the first
attempt failed on the connection or was turned down.
-/

namespace TradingDesk.Execution

/-- The settings and the broker of execution. -/
structure Engine (σ : Type) where
  settings : Settings
  broker : Broker σ

/-- What an entry asks for. -/
structure Entry where
  user : String
  symbol : String
  side : Side
  size : Decimal
  price : Decimal
deriving DecidableEq

/-- What an exit came to. -/
structure ExitReport where
  user : String
  symbol : String
  orderId : String
  quantity : Decimal
  price : Decimal
  profit : Decimal
  fee : Decimal
  entryFee : Decimal
  remaining : Decimal
  closed : Bool
  reason : String
deriving DecidableEq

namespace ExitReport

/-- The result after the fee of the exit and its share of the fee of the entry. -/
def netProfit? (r : ExitReport) : Option Decimal := do
  let afterExit ← Decimal.sub? r.profit r.fee
  Decimal.sub? afterExit r.entryFee

/-- A report as data. -/
def toJson (r : ExitReport) : Json :=
  .obj [("user_id", .str r.user), ("symbol", .str r.symbol), ("order_id", .str r.orderId),
    ("quantity", .str r.quantity.render), ("price", .str r.price.render),
    ("realized_pnl", .str r.profit.render), ("fee", .str r.fee.render),
    ("entry_fee", .str r.entryFee.render), ("remaining_size", .str r.remaining.render),
    ("closed", .bool r.closed), ("reason", .str r.reason)]

end ExitReport

namespace Engine

variable {σ : Type}

/-! ## Entries -/

/-- The check of an entry before any order is sent. -/
def screen (e : Engine σ) (d : Desk σ) (entry : Entry) : Except Error Unit :=
  match d.killSwitch.check entry.user with
  | some reason => .error (.killSwitch reason)
  | none =>
    if !e.broker.supports entry.symbol then
      .error (.unsupportedSymbol entry.symbol e.broker.name)
    else if entry.price ≤ Decimal.zero ∨ entry.size ≤ Decimal.zero then
      .error (.invalidRequest entry.size entry.price)
    else if (d.book.find? entry.user entry.symbol).isSome then
      .error (.alreadyOpen entry.symbol)
    else .ok ()

/-- The order of an entry. -/
def entryOrder? (entry : Entry) : Option Order.Request := do
  let quantity ← Decimal.div? entry.size entry.price
  some ⟨entry.symbol, entry.side, quantity.round 8⟩

/-- The position that a confirmed entry opens. -/
def position? (e : Engine σ) (entry : Entry) (fill : Order.Confirmed) (now : Instant) :
    Option Position := do
  let (stopLoss, takeProfit) ← e.settings.exitLevels? entry.side fill.price
  some
    { user := entry.user
      symbol := entry.symbol
      side := entry.side
      entryPrice := fill.price
      quantity := fill.quantity
      stopLoss := stopLoss
      takeProfit := takeProfit
      ladderHits := List.replicate e.settings.ladder.levels.length false
      remaining := Decimal.one
      entryOrderId := fill.orderId
      openedAt := now }

/-- Puts a confirmed entry into the book and the ledger. -/
def open? (e : Engine σ) (d : Desk σ) (entry : Entry) (fill : Order.Confirmed) :
    Option (Outcome σ Position) := do
  let p ← e.position? entry fill d.clock
  let fee ← e.settings.fee? fill.quantity fill.price
  let trade := d.trade p entry.side .entry fill fee Decimal.zero "entry"
  let d := { d with book := d.book.insert p }
  some (d.bookTrade trade (·.openPosition p) p)

/-- Trades a fill back, whatever comes of it. -/
def unwind? (e : Engine σ) (d : Desk σ) (entry : Entry) (fill : Order.Confirmed) :
    Option (Desk σ) := do
  let o ← d.fill? e.broker ⟨entry.symbol, entry.side.opposite, fill.quantity⟩
  some o.desk

/-- Opens a position with a fill, unless its price slipped too far. -/
def accept? (e : Engine σ) (entry : Entry) (d : Desk σ) (fill : Order.Confirmed) :
    Option (Outcome σ Position) := do
  let slippage ← slippage? entry.side entry.price fill.price
  if e.settings.maxSlippage < slippage then
    let d ← e.unwind? d entry fill
    some (.failed d
      (.immediateLoss entry.price fill.price slippage e.settings.maxSlippage))
  else
    e.open? d entry fill

/-- Opens a position. -/
def enter? (e : Engine σ) (d : Desk σ) (entry : Entry) : Option (Outcome σ Position) :=
  match e.screen d entry with
  | .error error => some (.failed d error)
  | .ok () => do
    let order ← entryOrder? entry
    let o ← d.fill? e.broker order
    o.andThen? (e.accept? entry)

/-! ## Exits -/

/-- What an exit asks for; the level is that of the ladder that fired, if one did. -/
structure Exit where
  user : String
  symbol : String
  fraction : Decimal
  reason : String
  level : Option Nat
deriving DecidableEq

/-- The exit of a whole position. -/
def fullExit (user symbol reason : String) : Exit :=
  ⟨user, symbol, Decimal.one, reason, none⟩

/-- The fraction of the quantity at entry that a fill exits. -/
def filledFraction? (p : Position) (fraction : Decimal) (fill : Order.Confirmed) :
    Option Decimal :=
  if Decimal.zero < p.quantity then do
    let filled ← Decimal.div? fill.quantity p.quantity
    some (filled.min fraction)
  else
    some fraction

/-- The position after an exit fill. -/
def afterExit? (p : Position) (exit : Exit) (fill : Order.Confirmed) : Option Position := do
  let fraction ← filledFraction? p exit.fraction fill
  let p ← p.reduce? fraction
  some (match exit.level with
    | none => p
    | some index => p.markHit index)

/-- The report of an exit fill, given the position after it. -/
def report? (e : Engine σ) (p : Position) (exit : Exit) (fill : Order.Confirmed) :
    Option ExitReport := do
  let profit ← p.profit? fill.quantity fill.price
  let entryFee ← e.settings.fee? fill.quantity p.entryPrice
  let fee ← e.settings.fee? fill.quantity fill.price
  some
    { user := exit.user
      symbol := exit.symbol
      orderId := fill.orderId
      quantity := fill.quantity
      price := fill.price
      profit := profit
      fee := fee
      entryFee := entryFee
      remaining := p.remaining
      closed := p.isClosed
      reason := exit.reason }

/-- The book after an exit. -/
def bookAfter (b : Book) (p : Position) : Book :=
  if p.isClosed then b.erase p.user p.symbol else b.insert p

/-- What the ledger notes of a position after an exit at a price. -/
def noteExit (p : Position) (price : Decimal) (l : Ledger) : Except Ledger.Error Ledger :=
  if p.isClosed then l.closePosition p.user p.symbol price else l.updateRemaining p

/-- Books an exit fill. -/
def settle? (e : Engine σ) (p : Position) (exit : Exit) (d : Desk σ) (fill : Order.Confirmed) :
    Option (Outcome σ ExitReport) := do
  let after ← afterExit? p exit fill
  let report ← e.report? after exit fill
  let trade :=
    d.trade after p.side.opposite .exit fill report.fee report.profit exit.reason
  let d := { d with book := bookAfter d.book after }
  some (d.bookTrade trade (noteExit after fill.price) report)

/-- The order of an exit. -/
def exitOrder? (p : Position) (exit : Exit) : Option Order.Request := do
  let quantity ← p.exitQuantity? exit.fraction
  some ⟨exit.symbol, p.side.opposite, quantity.round 8⟩

/-- Exits a fraction of the quantity at entry of a position. -/
def exit? (e : Engine σ) (d : Desk σ) (exit : Exit) : Option (Outcome σ ExitReport) :=
  if exit.fraction ≤ Decimal.zero ∨ Decimal.one < exit.fraction then
    some (.failed d (.invalidFraction exit.fraction))
  else
    match d.book.find? exit.user exit.symbol with
    | none => some (.failed d (.noPosition exit.user exit.symbol))
    | some p => do
      let order ← exitOrder? p exit
      let o ← d.fill? e.broker order
      o.andThen? (e.settle? p exit)

/-- Exits a whole position, with one more attempt after a failure that allows it. -/
def forceExit? (e : Engine σ) (d : Desk σ) (user symbol reason : String) :
    Option (Outcome σ ExitReport) := do
  let first ← e.exit? d (fullExit user symbol reason)
  match first.result with
  | .ok _ => some first
  | .error error =>
    if error.isRetryable then e.exit? first.desk (fullExit user symbol reason) else some first

/-! ## The ladder -/

/-- Fires levels one after another, each on what is then still open. -/
def fire? (e : Engine σ) (user symbol : String) (d : Desk σ) :
    List LadderHit → Option (Outcome σ (List ExitReport))
  | [] => some (.done d [])
  | hit :: rest =>
    match d.book.find? user symbol with
    | none => some (.failed d (.noPosition user symbol))
    | some p => do
      let fraction ← hit.level.tranche? p.remaining
      if fraction ≤ Decimal.zero then
        e.fire? user symbol d rest
      else
        let reason ← hit.level.reason?
        let o ← e.exit? d ⟨user, symbol, fraction, reason, some hit.index⟩
        o.andThen? fun d report ↦
          if report.closed then some (.done d [report])
          else (e.fire? user symbol d rest).map (·.map (report :: ·))

/-- Fires every level that a price reaches. -/
def takeSteps? (e : Engine σ) (d : Desk σ) (user symbol : String) (price : Decimal) :
    Option (Outcome σ (List ExitReport)) :=
  match d.book.find? user symbol with
  | none => some (.failed d (.noPosition user symbol))
  | some p => do
    let hits ← e.settings.ladder.pendingHits? p price
    e.fire? user symbol d hits

/-- Closes a position at its stop or target, or else fires its ladder. -/
def check? (e : Engine σ) (d : Desk σ) (user symbol : String) (price : Decimal) :
    Option (Outcome σ (List ExitReport)) :=
  match d.book.find? user symbol with
  | none => some (.failed d (.noPosition user symbol))
  | some p =>
    if p.stopHit price then
      (e.forceExit? d user symbol "stop_loss").map (·.map fun r ↦ [r])
    else if p.takeProfitHit price then
      (e.exit? d (fullExit user symbol "take_profit")).map (·.map fun r ↦ [r])
    else
      e.takeSteps? d user symbol price

/-! ## Restarts -/

/-- Takes the open positions of the ledger into the book, and counts what the book then holds. -/
def restore (e : Engine σ) (d : Desk σ) : Except Ledger.Error (Desk σ × Nat) := do
  let stored ← d.ledger.openPositions none
  let resized := stored.map (·.resizeHits e.settings.ladder.levels.length)
  let book := resized.foldl Book.insert d.book
  return ({ d with book := book }, book.length)

end Engine

end TradingDesk.Execution
