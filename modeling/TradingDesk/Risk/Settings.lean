import TradingDesk.Decimal.Text
import TradingDesk.Record.Reader

/-!
# Risk Limits

The limits of a user: how many positions may be open and how many may be opened in a day, the range
of sizes as shares of the balance, and the losses of a day and a week, the drawdown and the gross
losses of a day from which on nothing more is opened.
-/

namespace TradingDesk.Risk

/-- The limits of a user. -/
structure Settings where
  maxOpenPositions : Nat
  maxDailyTrades : Nat
  minPosition : Decimal
  maxPosition : Decimal
  maxDailyLoss : Decimal
  maxDailyLossShare : Decimal
  maxWeeklyLossShare : Decimal
  maxDrawdown : Decimal
  breakerLossShare : Decimal
deriving DecidableEq

namespace Settings

/-- The usual limits. -/
def standard : Settings :=
  { maxOpenPositions := 5
    maxDailyTrades := 20
    minPosition := Decimal.const 5 3
    maxPosition := Decimal.const 20 2
    maxDailyLoss := Decimal.const 500 0
    maxDailyLossShare := Decimal.const 5 2
    maxWeeklyLossShare := Decimal.const 10 2
    maxDrawdown := Decimal.const 15 2
    breakerLossShare := Decimal.const 3 2 }

/-- Reads limits; absent fields take their usual values. -/
def ofJson? (t : Record.Typing) : Json → Option Settings :=
  let amount (name : String) (usual : Decimal) : Record.Reader Decimal :=
    Record.withDefault [name] Record.decimal? usual
  Record.read? do
    let maxOpenPositions ←
      Record.withDefault ["max_open_positions"] (t.nat? limit64) standard.maxOpenPositions
    let maxDailyTrades ←
      Record.withDefault ["max_daily_trades"] (t.nat? limit32) standard.maxDailyTrades
    let minPosition ← amount "min_position_pct" standard.minPosition
    let maxPosition ← amount "max_position_pct" standard.maxPosition
    let maxDailyLoss ← amount "max_daily_loss_usd" standard.maxDailyLoss
    let maxDailyLossShare ← amount "max_daily_loss_pct" standard.maxDailyLossShare
    let maxWeeklyLossShare ← amount "max_weekly_loss_pct" standard.maxWeeklyLossShare
    let maxDrawdown ← amount "max_drawdown_pct" standard.maxDrawdown
    let breakerLossShare ← amount "circuit_breaker_loss_pct" standard.breakerLossShare
    pure ⟨maxOpenPositions, maxDailyTrades, minPosition, maxPosition, maxDailyLoss,
      maxDailyLossShare, maxWeeklyLossShare, maxDrawdown, breakerLossShare⟩

/-- The limits as data. -/
def toJson (s : Settings) : Json :=
  .obj [("max_open_positions", .nat s.maxOpenPositions),
    ("max_daily_trades", .nat s.maxDailyTrades),
    ("min_position_pct", .str s.minPosition.render),
    ("max_position_pct", .str s.maxPosition.render),
    ("max_daily_loss_usd", .str s.maxDailyLoss.render),
    ("max_daily_loss_pct", .str s.maxDailyLossShare.render),
    ("max_weekly_loss_pct", .str s.maxWeeklyLossShare.render),
    ("max_drawdown_pct", .str s.maxDrawdown.render),
    ("circuit_breaker_loss_pct", .str s.breakerLossShare.render)]

end Settings

end TradingDesk.Risk
