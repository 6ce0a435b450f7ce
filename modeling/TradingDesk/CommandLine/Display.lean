import TradingDesk.Allocation.Plan
import TradingDesk.Binary64.Fixed
import TradingDesk.Position
import TradingDesk.Risk.State
import TradingDesk.Table
import TradingDesk.Text.Layout

/-!
# Displays

What the program shows of plans, positions and risk states, as lines.  Amounts of money are cut to
cents, and names that are too long for their column are shortened.
-/

namespace TradingDesk.CommandLine

/-- An amount of money. -/
def dollars (d : Decimal) : String :=
  "$" ++ d.renderFixed 2

/-! ## Plans -/

/-- The row of a target in a plan. -/
def allocationLine (p : Allocation.Plan) (id : String) (capital : Decimal) : String :=
  let share := (p.shares.lookup id).getD 0.0
  Text.alignLeft 24 (Text.shorten 24 id) ++ " " ++ Text.alignRight 14 (capital.renderFixed 2) ++
    " " ++ Text.alignRight 7 (Binary64.fixedText (share * 100.0) 1) ++ "%"

/-- The line of a move of capital. -/
def moveLine (m : Allocation.Move) : String :=
  "  " ++ Text.alignLeft 22 (Text.shorten 22 m.target) ++ " " ++ m.direction.label ++ " " ++
    dollars m.fromCapital ++ " -> " ++ dollars m.toCapital ++ " (" ++ m.delta.renderFixed 2 ++ ")"

/-- The lines of a plan, its targets in the order of falling capital. -/
def planLines (p : Allocation.Plan) : List String :=
  let rows := (Table.sorted p.allocations).mergeSort fun a b ↦ decide (b.2 ≤ a.2)
  let head :=
    ["", "=== Allocation Plan (" ++ p.method.label ++ ") ===",
      "Created:  " ++ p.createdAt.secondText,
      "Capital:  " ++ dollars p.totalCapital ++ " (reserve " ++ dollars p.reserveCapital ++ ")", "",
      Text.alignLeft 24 "TARGET" ++ " " ++ Text.alignRight 14 "CAPITAL" ++ " " ++
        Text.alignRight 8 "SHARE",
      Text.dashes 48]
  let expected :=
    ["", "Expected Return:     " ++ Binary64.fixedText (p.expectedReturn * 100.0) 4 ++ "%",
      "Expected Volatility: " ++ Binary64.fixedText (p.expectedVolatility * 100.0) 4 ++ "%",
      "Expected Sharpe:     " ++ Binary64.fixedText p.expectedSharpe 2,
      "Diversification:     " ++ Binary64.fixedText p.diversification 2]
  let moves := if p.moves.isEmpty then [] else "" :: "--- Rebalancing ---" :: p.moves.map moveLine
  head ++ rows.map (fun (id, capital) ↦ allocationLine p id capital) ++ expected ++ moves

/-! ## Positions -/

/-- The lines above a table of positions. -/
def positionHeading : List String :=
  ["", "=== Open Positions ===",
    Text.alignLeft 12 "USER" ++ " " ++ Text.alignLeft 12 "SYMBOL" ++ " " ++
      Text.alignLeft 5 "SIDE" ++ " " ++ Text.alignRight 14 "ENTRY" ++ " " ++
      Text.alignRight 14 "QUANTITY" ++ " " ++ Text.alignRight 10 "REMAINING",
    Text.dashes 72]

/-- The row of a position. -/
def positionLine? (p : Position) : Option String := do
  let percent ← Decimal.mul? p.remaining (Decimal.const 100 0)
  some <| Text.alignLeft 12 (Text.shorten 12 p.user) ++ " " ++ Text.alignLeft 12 p.symbol ++ " " ++
    p.side.name ++ " " ++ Text.alignRight 14 (p.entryPrice.renderFixed 4) ++ " " ++
    Text.alignRight 14 (p.quantity.renderFixed 6) ++ " " ++
    Text.alignRight 9 (percent.renderFixed 1) ++ "%"

/-! ## Risk states -/

/-- The lines of a risk state about the balance. -/
def balanceLines (s : Risk.State) : List String :=
  ["", "=== Risk: " ++ s.user ++ " ===",
    "Balance:        " ++ dollars s.balance ++ " (peak " ++ dollars s.peakBalance ++ ")"]

/-- The line of a risk state about its drawdown. -/
def drawdownLine? (s : Risk.State) : Option String := do
  let percent ← Decimal.mul? s.drawdown (Decimal.const 100 0)
  some ("Drawdown:       " ++ percent.renderFixed 2 ++ "%")

/-- The lines of a risk state about results, entries and the breaker. -/
def activityLines (s : Risk.State) : List String :=
  let breaker :=
    if s.breaker.tripped then "TRIPPED (" ++ s.breaker.reason.getD "no reason recorded" ++ ")"
    else "ok"
  ["Daily P&L:      " ++ dollars s.dailyProfit ++ " (losses " ++ dollars s.dailyLosses ++ ")",
    "Weekly P&L:     " ++ dollars s.weeklyProfit,
    "Entries:        " ++ toString s.dailyTrades ++ " today, " ++ toString s.weeklyTrades ++
      " this week, " ++ toString s.totalTrades ++ " total",
    "Breaker:        " ++ breaker,
    "Last reset:     " ++ s.lastResetDate.render]

end TradingDesk.CommandLine
