import TradingDesk.Backtest.Report
import TradingDesk.Backtest.Settings

/-!
# Replay

A backtest replays candles one by one through a bot and a paper broker.  At every candle the mark
moves to its close, the market data reveals the series up to it, the bot ticks, and the equity is
compared with its peak.  After the last candle an open position is closed.

The market data holds the whole series from the start, and a cursor says how much of it is visible.
A clock gives the time of the start of the bot and that of every tick.
-/

namespace TradingDesk.Backtest

/-- Why there is no report. -/
inductive Error where
  | tooFew (least given : Nat)
  | start (reason : String)
  | ledger (e : Ledger.Error)
deriving DecidableEq

/-- The text of a failure. -/
def Error.message : Error → String
  | tooFew least given =>
    "Need more than " ++ toString least ++ " candles for a backtest, got " ++ toString given
  | start reason => reason
  | ledger e => e.message

/-- Market data that reveals a series of candles from its front. -/
structure Series where
  candles : List Candle
  cursor : Nat

namespace Series

/-- A series of which nothing is visible. -/
def ofCandles (candles : List Candle) : Series :=
  ⟨candles, 0⟩

/-- Makes the first so many candles visible. -/
def advanceTo (f : Series) (count : Nat) : Series :=
  { f with cursor := Min.min count f.candles.length }

/-- The latest visible candles, at most so many of them. -/
def window (f : Series) (limit : Nat) : List Candle :=
  (f.candles.take f.cursor).drop (f.cursor - limit)

/-- The visible candles as a source for a bot, whatever the symbol. -/
def feed (f : Series) : Bot.Feed :=
  fun _ limit ↦ some (f.window limit)

end Series

/-- The course of a backtest: the session of the bot, the market data, the peak of the equity and
its largest fall. -/
structure Replay where
  session : Bot.Session Broker.Paper.State
  series : Series
  peak : Decimal
  maxDrawdown : Float

namespace Replay

/-- The course before the first candle, with a session that has started. -/
def start (s : Settings) (session : Bot.Session Broker.Paper.State) (candles : List Candle) :
    Replay :=
  { session := session
    series := .ofCandles candles
    peak := s.initialCapital
    maxDrawdown := 0.0 }

/-- Moves the mark of a symbol. -/
def mark (s : Bot.Session Broker.Paper.State) (symbol : String) (price : Decimal) :
    Bot.Session Broker.Paper.State :=
  { s with desk := { s.desk with market := s.desk.market.setPrice symbol price } }

/-- The fall of an equity from a peak, as a share of the peak. -/
def fall? (peak equity : Decimal) : Option Float :=
  if Decimal.zero < peak then do
    let lost ← Decimal.sub? peak equity
    let share ← Decimal.div? lost peak
    some share.toFloat
  else
    some 0.0

/-- Compares an equity with the peak. -/
def withEquity? (r : Replay) (equity : Decimal) : Option Replay := do
  let peak := if r.peak < equity then equity else r.peak
  let fall ← fall? peak equity
  some { r with peak := peak, maxDrawdown := Binary64.max r.maxDrawdown fall }

/-- The closes of candles, each with its place in the series. -/
def closes (candles : List Candle) : List (Decimal × Nat) :=
  (candles.map (·.close)).zipIdx

/-- Replays the candle of a close; the clock shows the start first, then a time for each candle. -/
def step? (s : Settings) (clock : Nat → Instant) (r : Replay) (bar : Decimal × Nat) :
    Option Replay := do
  let (close, place) := bar
  let series := r.series.advanceTo (place + 1)
  let session ←
    s.trader.tick? series.feed (clock (place + 1)) (mark r.session s.symbol close)
  let equity ← session.desk.market.equity?
  { r with session := session, series := series }.withEquity? equity

/-- Replays the candles of closes in their order. -/
def run? (s : Settings) (clock : Nat → Instant) (r : Replay) (bars : List (Decimal × Nat)) :
    Option Replay :=
  bars.foldlM (step? s clock) r

/-- Closes what is still open, if that works. -/
def close? (s : Settings) (session : Bot.Session Broker.Paper.State) :
    Option (Bot.Session Broker.Paper.State) :=
  if (session.desk.book.find? s.bot.user s.symbol).isSome then do
    let o ← s.trader.engine.exit? session.desk
      (Execution.Engine.fullExit s.bot.user s.symbol "backtest_end")
    some { session with desk := o.desk }
  else
    some session

end Replay

/-- The return on an initial capital, as a share rounded to six places. -/
def returnShare? (initial final : Decimal) : Option Decimal :=
  if initial ≤ Decimal.zero then some Decimal.zero
  else do
    let gain ← Decimal.sub? final initial
    let share ← Decimal.div? gain initial
    some (share.round 6)

namespace Settings

/-- The session before the bot has started. -/
def firstSession (s : Settings) (now : Instant) : Bot.Session Broker.Paper.State :=
  .new (.new (.new s.paper) (.new none) now) (.new s.risk)

/-- The report of a finished replay. -/
def report? (s : Settings) (now : Instant) (first last : Candle) (count : Nat) (r : Replay) :
    Option (Except Error Report) := do
  let session ← Replay.close? s r.session
  let final ← session.desk.market.equity?
  match ← session.desk.ledger.statistics? (some s.bot.user) with
  | .error e => some (.error (.ledger e))
  | .ok statistics =>
    let share ← returnShare? s.initialCapital final
    some <| .ok
      { symbol := s.symbol
        start := first.timestamp
        finish := last.timestamp
        candles := count
        initialCapital := s.initialCapital
        finalCapital := final
        totalReturn := share
        totalFees := session.desk.market.feesPaid
        ledger := statistics
        bot := s.trader.summary (session.touch s.bot.user now)
        maxDrawdown := r.maxDrawdown }

/-- The course of a backtest after its first so many candles; those of the warm-up are skipped. -/
def course? (s : Settings) (clock : Nat → Instant) (candles : List Candle) (count : Nat) :
    Option (Except Error Replay) :=
  if candles.length ≤ s.leastCandles then
    some (.error (.tooFew s.leastCandles candles.length))
  else do
    let (session, started) ← s.trader.initialize? (s.firstSession (clock 0)) (clock 0)
    match started with
    | .error reason => some (.error (.start reason))
    | .ok () =>
      let bars := ((Replay.closes candles).take count).drop s.warmup
      let r ← Replay.run? s clock (.start s session candles) bars
      some (.ok r)

/-- Replays a series of candles and reports the result. -/
def run? (s : Settings) (now : Instant) (candles : List Candle) :
    Option (Except Error Report) :=
  match candles.head?, candles.getLast? with
  | some first, some last => do
    match ← s.course? (fun _ ↦ now) candles candles.length with
    | .error e => some (.error e)
    | .ok r => s.report? now first last candles.length r
  | _, _ => some (.error (.tooFew s.leastCandles 0))

end Settings

end TradingDesk.Backtest
