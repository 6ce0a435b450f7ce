import TradingDesk.Execution.Engine

/-!
# Bot Tally

The bot counts what it does: its looks at the market, the signals it scored and allowed, entries
and what kept them from happening, and exits with their results and fees.  A summary shows the
tally beside the present balance, the open positions and the state of the circuit breaker.
-/

namespace TradingDesk.Bot

/-- What a bot did so far. -/
structure Tally where
  ticks : Nat
  signalsEvaluated : Nat
  signalsAllowed : Nat
  entries : Nat
  riskRejections : Nat
  executionFailures : Nat
  exits : Nat
  realizedProfit : Decimal
  fees : Decimal
deriving DecidableEq

namespace Tally

/-- The tally of a bot that did nothing. -/
def zero : Tally :=
  ⟨0, 0, 0, 0, 0, 0, 0, Decimal.zero, Decimal.zero⟩

/-- Counts a look at the market. -/
def countTick (t : Tally) : Tally :=
  { t with ticks := t.ticks + 1 }

/-- Counts a signal that was scored. -/
def countEvaluated (t : Tally) : Tally :=
  { t with signalsEvaluated := t.signalsEvaluated + 1 }

/-- Counts a signal that allows an entry. -/
def countAllowed (t : Tally) : Tally :=
  { t with signalsAllowed := t.signalsAllowed + 1 }

/-- Counts a confirmed entry. -/
def countEntry (t : Tally) : Tally :=
  { t with entries := t.entries + 1 }

/-- Counts an entry that the risk manager denied. -/
def countRejection (t : Tally) : Tally :=
  { t with riskRejections := t.riskRejections + 1 }

/-- Counts an entry or an exit that failed. -/
def countFailure (t : Tally) : Tally :=
  { t with executionFailures := t.executionFailures + 1 }

/-- Counts an exit with its result and with its fees, those of the entry included. -/
def countExit? (t : Tally) (r : Execution.ExitReport) : Option Tally := do
  let profit ← Decimal.add? t.realizedProfit r.profit
  let fees ← Decimal.add? t.fees (← Decimal.add? r.fee r.entryFee)
  some { t with exits := t.exits + 1, realizedProfit := profit, fees := fees }

end Tally

/-- A tally and the present state of its user. -/
structure Summary where
  tally : Tally
  openPositions : Nat
  balance : Decimal
  breakerTripped : Bool
deriving DecidableEq

namespace Summary

/-- The word for the state of a circuit breaker. -/
def breakerWord (tripped : Bool) : String :=
  if tripped then "TRIPPED" else "ok"

/-- The summary as lines of text. -/
def text (s : Summary) : String :=
  let t := s.tally
  String.join <| List.map (· ++ "\n")
    ["=== Bot Statistics ===",
    "Ticks:           " ++ toString t.ticks,
    "Signals:         " ++ toString t.signalsEvaluated ++ " evaluated, " ++
      toString t.signalsAllowed ++ " allowed",
    "Entries:         " ++ toString t.entries ++ " (risk rejected: " ++
      toString t.riskRejections ++ ", failed: " ++ toString t.executionFailures ++ ")",
    "Exits:           " ++ toString t.exits,
    "Realized P&L:    $" ++ t.realizedProfit.renderFixed 2,
    "Fees:            $" ++ t.fees.renderFixed 2,
    "Open Positions:  " ++ toString s.openPositions,
    "Balance:         $" ++ s.balance.renderFixed 2,
    "Circuit Breaker: " ++ breakerWord s.breakerTripped]

/-- The summary as data. -/
def toJson (s : Summary) : Json :=
  let t := s.tally
  .obj [("ticks", .nat t.ticks), ("signals_evaluated", .nat t.signalsEvaluated),
    ("signals_allowed", .nat t.signalsAllowed), ("entries", .nat t.entries),
    ("risk_rejections", .nat t.riskRejections), ("execution_failures", .nat t.executionFailures),
    ("exits", .nat t.exits), ("realized_pnl", .str t.realizedProfit.render),
    ("fees", .str t.fees.render), ("open_positions", .nat s.openPositions),
    ("balance", .str s.balance.render), ("circuit_breaker", .bool s.breakerTripped)]

end Summary

end TradingDesk.Bot
