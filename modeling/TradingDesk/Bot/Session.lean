import TradingDesk.Bot.Settings
import TradingDesk.Bot.Tally
import TradingDesk.Risk.Manager
import TradingDesk.Sizing

/-!
# Bot Sessions

A bot joins a scorer, a sizer and execution for one user.  In every tick it looks at each of its
symbols: it manages the exits of an open position there, or else looks for an entry.  An entry needs
an allowed signal, a size, the consent of the risk manager and a confirmed order, in this order.
The net result of every exit is booked with the risk manager, and the returns of past exits serve
the sizing of later entries.

A symbol whose candles cannot be fetched is passed over.  The risk states are saved after every
tick.
-/

namespace TradingDesk

/-- A bot with its settings and its broker. -/
structure Bot (σ : Type) where
  settings : Bot.Settings
  scorer : Signal.Scorer
  sizing : Sizing.Settings
  engine : Execution.Engine σ

namespace Bot

/-- Where candles come from: at most so many of the latest ones of a symbol, or nothing. -/
abbrev Feed := String → Nat → Option (List Candle)

/-- What changes while a bot runs. -/
structure Session (σ : Type) where
  desk : Execution.Desk σ
  risk : Risk.Manager
  tally : Tally
  exitReturns : List Float

namespace Session

variable {σ : Type}

/-- A session before the first tick. -/
def new (desk : Execution.Desk σ) (risk : Risk.Manager) : Session σ :=
  ⟨desk, risk, Tally.zero, []⟩

/-- The session with a changed tally. -/
def count (s : Session σ) (f : Tally → Tally) : Session σ :=
  { s with tally := f s.tally }

/-- The session with the state of a user rolled over. -/
def touch (s : Session σ) (user : String) (now : Instant) : Session σ :=
  { s with risk := s.risk.touch user now }

/-- The known balance of a user, zero without a state. -/
def balance (s : Session σ) (user : String) : Decimal :=
  ((s.risk.stored? user).map (·.balance)).getD Decimal.zero

/-- The session with its risk states saved. -/
def save (s : Session σ) : Session σ :=
  { s with desk := { s.desk with ledger := s.risk.save s.desk.ledger } }

/-! ## Returns of exits -/

/-- The number of exits whose returns are kept. -/
def returnWindow : Nat := 100

/-- The number of exits from which on sizing relies on them. -/
def minSizingReturns : Nat := 10

/-- Keeps the return of one more exit, and drops the oldest one beyond the window. -/
def keepReturn (returns : List Float) (r : Float) : List Float :=
  (if returns.length = returnWindow then returns.drop 1 else returns) ++ [r]

/-- The figures of past exits once there are enough of them. -/
def history (s : Session σ) : Option Performance :=
  if s.exitReturns.length < minSizingReturns then none
  else some (Performance.ofReturns s.exitReturns Performance.periodsPerYear)

/-- The return of an exit on its value; none without a value. -/
def exitReturn? (r : Execution.ExitReport) (net : Decimal) : Option (Option Float) := do
  let notional ← Decimal.mul? r.quantity r.price
  if Decimal.zero < notional then
    let share ← Decimal.div? net notional
    some (some share.toFloat)
  else
    some none

/-- Books an exit in the tally, in the returns and with the risk manager. -/
def recordExit? (s : Session σ) (now : Instant) (r : Execution.ExitReport) :
    Option (Session σ) := do
  let net ← r.netProfit?
  let tally ← s.tally.countExit? r
  let exitReturns := match ← exitReturn? r net with
    | none => s.exitReturns
    | some x => keepReturn s.exitReturns x
  let (risk, _) ← s.risk.recordTrade? r.user net now
  some { s with tally := tally, exitReturns := exitReturns, risk := risk }

end Session

variable {σ : Type}

/-! ## Starting and stopping -/

/-- Loads the risk states and the positions of the ledger, and asks the broker for the balance of a
user without a state. -/
def initialize? (b : Bot σ) (s : Session σ) (now : Instant) :
    Option (Session σ × Except String Unit) := do
  let user := b.settings.user
  let (risk, loaded) := s.risk.load s.desk.ledger
  let s := { s with risk := risk }
  match loaded with
  | .error unreadable => some (s, .error (Risk.Manager.unreadable unreadable))
  | .ok _ =>
    match b.engine.restore s.desk with
    | .error e => some (s, .error e.message)
    | .ok (desk, _) =>
      let s := { s with desk := desk }.touch user now
      if (s.risk.stored? user).isSome then
        some (s, .ok ())
      else
        let risk ← s.risk.setBalance? user (b.engine.broker.balance desk.market) now
        some ({ s with risk := risk }, .ok ())

/-- The tally beside the present state of the user. -/
def summary (b : Bot σ) (s : Session σ) : Summary :=
  let user := b.settings.user
  { tally := s.tally
    openPositions := s.desk.book.count user
    balance := s.balance user
    breakerTripped := ((s.risk.stored? user).map (·.breaker.tripped)).getD false }

/-! ## Exits -/

/-- Manages the open position in a symbol. -/
def manageExits? (b : Bot σ) (s : Session σ) (now : Instant) (symbol : String) (price : Decimal) :
    Option (Session σ) := do
  let o ← b.engine.check? s.desk b.settings.user symbol price
  let s := { s with desk := o.desk }
  match o.result with
  | .ok reports => reports.foldlM (fun s r ↦ s.recordExit? now r) s
  | .error _ => some (s.count Tally.countFailure)

/-! ## Entries -/

/-- The better of two signals; the earlier one keeps its place in a tie. -/
def better (best : Option (Side × Signal.Score)) (side : Side) (score : Signal.Score) :
    Option (Side × Signal.Score) :=
  match best with
  | none => some (side, score)
  | some (kept, top) => if top.score < score.score then some (side, score) else some (kept, top)

/-- The highest allowed signal among the scored sides. -/
def bestSignal? (b : Bot σ) (previous last : Candle) (i : Signal.Indicators) :
    Option (Option (Side × Signal.Score)) :=
  b.settings.sides.foldlM
    (fun best side ↦ do
      let score ← b.scorer.score? side previous last i
      some (if score.allowed then better best side score else best))
    none

/-- The value of all open positions of a user. -/
def exposure? (d : Execution.Desk σ) (user : String) : Option Decimal := do
  let values ← (d.book.ofUser user).mapM Position.notional?
  Decimal.sum? values

/-- Sends an entry that the risk manager allows. -/
def sendEntry? (b : Bot σ) (s : Session σ) (now : Instant) (entry : Execution.Entry) :
    Option (Session σ) := do
  let user := b.settings.user
  let s := s.touch user now
  match ← s.risk.check? user entry.size (s.desk.book.count user) now with
  | some _ => some (s.count Tally.countRejection)
  | none =>
    let o ← b.engine.enter? s.desk entry
    let s := { s with desk := o.desk }
    match o.result with
    | .error _ => some (s.count Tally.countFailure)
    | .ok _ =>
      let risk ← s.risk.recordEntry? user now
      some ({ s with risk := risk }.count Tally.countEntry)

/-- Looks for an entry in a symbol. -/
def tryEntry? (b : Bot σ) (s : Session σ) (now : Instant) (symbol : String)
    (candles : List Candle) (previous last : Candle) : Option (Session σ) := do
  let user := b.settings.user
  let i ← Signal.Indicators.ofCandles? candles
  let s := s.count Tally.countEvaluated
  match ← b.bestSignal? previous last i with
  | none => some s
  | some (side, signal) =>
    let s := (s.count Tally.countAllowed).touch user now
    let exposure ← exposure? s.desk user
    let size ← Sizing.size? b.sizing (s.balance user) signal.score s.history exposure
    if size ≤ Decimal.zero then
      some s
    else
      b.sendEntry? s now ⟨user, symbol, side, size, last.close⟩

/-! ## Ticks -/

/-- Manages the open position in a symbol, or else looks for an entry. -/
def onCandles? (b : Bot σ) (s : Session σ) (now : Instant) (symbol : String)
    (candles : List Candle) : Option (Session σ) :=
  match Signal.lastTwo? candles with
  | none => some s
  | some (last, previous) =>
    if (s.desk.book.find? b.settings.user symbol).isSome then
      b.manageExits? s now symbol last.close
    else
      b.tryEntry? s now symbol candles previous last

/-- Looks at one symbol, unless its candles cannot be fetched. -/
def visit? (b : Bot σ) (feed : Feed) (now : Instant) (s : Session σ) (symbol : String) :
    Option (Session σ) :=
  match feed symbol b.settings.candleLimit with
  | none => some s
  | some candles => b.onCandles? s now symbol candles

/-- Looks at every symbol once and saves the risk states. -/
def tick? (b : Bot σ) (feed : Feed) (now : Instant) (s : Session σ) : Option (Session σ) := do
  let s ← b.settings.symbols.foldlM (b.visit? feed now) (s.count Tally.countTick)
  some s.save

/-- Ticks at the given times, and saves the risk states once more at the end. -/
def run? (b : Bot σ) (feed : Feed) (times : List Instant) (s : Session σ) :
    Option (Session σ) := do
  let s ← times.foldlM (fun s now ↦ b.tick? feed now s) s
  some s.save

/-! ## Views -/

@[simp]
theorem desk_count (s : Session σ) (f : Tally → Tally) : (s.count f).desk = s.desk := rfl

@[simp]
theorem risk_count (s : Session σ) (f : Tally → Tally) : (s.count f).risk = s.risk := rfl

@[simp]
theorem desk_touch (s : Session σ) (user : String) (now : Instant) :
    (s.touch user now).desk = s.desk := rfl

@[simp]
theorem book_save (s : Session σ) : s.save.desk.book = s.desk.book := rfl

end Bot

end TradingDesk
