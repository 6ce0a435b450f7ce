import TradingDesk.Bot.Tally
import TradingDesk.Ledger.Statistics

/-!
# Backtest Reports

A report says what a backtest made of its capital, beside the trades of the ledger, the tally of the
bot and the largest fall of the equity from a peak.  Its text is a framed block of lines.
-/

namespace TradingDesk.Backtest

/-- The result of a backtest. -/
structure Report where
  symbol : String
  start : Instant
  finish : Instant
  candles : Nat
  initialCapital : Decimal
  finalCapital : Decimal
  totalReturn : Decimal
  totalFees : Decimal
  ledger : Ledger.Statistics
  bot : Bot.Summary
  maxDrawdown : Float

namespace Report

/-- A bar of a given width. -/
def bar (width : Nat) : String :=
  String.ofList (List.replicate width '=')

/-- The lines about the capital. -/
def capitalLines (r : Report) (percent : Decimal) : List String :=
  ["--- Capital ---",
  "Initial:     $" ++ r.initialCapital.renderFixed 2,
  "Final:       $" ++ r.finalCapital.renderFixed 2,
  "Return:      " ++ percent.renderFixed 2 ++ "%",
  "Fees Paid:   $" ++ r.totalFees.renderFixed 2]

/-- The lines about the trades. -/
def tradeLines (r : Report) : List String :=
  ["--- Trades ---",
  "Entries:     " ++ toString r.bot.tally.entries ++ " (" ++
    toString r.bot.tally.riskRejections ++ " risk rejected, " ++
    toString r.bot.tally.executionFailures ++ " failed)",
  "Exits:       " ++ toString r.ledger.exits,
  "Winners:     " ++ toString r.ledger.winningExits ++ " (" ++
    Binary64.fixedText (r.ledger.winRate * 100.0) 1 ++ "%)",
  "Losers:      " ++ toString r.ledger.losingExits,
  "Realized:    $" ++ r.ledger.realizedProfit.renderFixed 2]

/-- The lines about the risk. -/
def riskLines (r : Report) : List String :=
  ["--- Risk Metrics ---",
  "Max Drawdown: " ++ Binary64.fixedText (r.maxDrawdown * 100.0) 2 ++ "%",
  "Breaker:      " ++ Bot.Summary.breakerWord r.bot.breakerTripped]

/-- The lines of the report. -/
def lines? (r : Report) : Option (List String) := do
  let percent ← Decimal.mul? r.totalReturn (Decimal.const 100 0)
  some <|
    ["", bar 21 ++ " BACKTEST RESULTS " ++ bar 21, "",
      "Symbol: " ++ r.symbol ++ " (" ++ toString r.candles ++ " candles)",
      "Period: " ++ r.start.minuteText ++ " to " ++ r.finish.minuteText, ""] ++
    r.capitalLines percent ++ "" :: r.tradeLines ++ "" :: r.riskLines ++ [bar 60]

/-- The text of the report; every line is ended. -/
def text? (r : Report) : Option String := do
  let lines ← r.lines?
  some (String.join (lines.map (· ++ "\n")))

/-- The report as data, with its text. -/
def toJson? (r : Report) : Option Json := do
  let ledger ← r.ledger.report?
  let text ← r.text?
  some <| .obj
    [("symbol", .str r.symbol), ("start_time", .str r.start.render),
      ("end_time", .str r.finish.render), ("candles", .nat r.candles),
      ("initial_capital", .str r.initialCapital.render),
      ("final_capital", .str r.finalCapital.render),
      ("total_return_pct", .str r.totalReturn.render), ("total_fees", .str r.totalFees.render),
      ("ledger", ledger), ("bot", r.bot.toJson), ("max_drawdown_pct", .real r.maxDrawdown),
      ("text", .str text)]

end Report

end TradingDesk.Backtest
