import TradingDesk.Execution.Ladder

/-!
# Execution Settings

The settings of execution: how far the price of an entry may slip, how far stop and target lie from
the entry, the fee that is booked for each fill, the profit ladder, the pause before a forced exit
is tried again, and the place of the halt file.
-/

namespace TradingDesk.Execution

/-- Settings of execution. -/
structure Settings where
  maxSlippage : Decimal
  stopLoss : Decimal
  takeProfit : Decimal
  feeRate : Decimal
  ladder : Ladder
  retryPause : Nat
  haltFile : Option String
deriving DecidableEq

namespace Settings

/-- The usual settings. -/
def standard : Settings :=
  { maxSlippage := Decimal.const 5 3
    stopLoss := Decimal.const 2 2
    takeProfit := Decimal.const 5 2
    feeRate := Decimal.const 7 3
    ladder := Ladder.standard
    retryPause := 1000
    haltFile := none }

/-- Reads settings; absent fields take their usual values. -/
def ofJson? (t : Record.Typing) : Json → Option Settings :=
  Record.read? do
    let maxSlippage ← Record.withDefault ["max_slippage"] Record.decimal? standard.maxSlippage
    let stopLoss ← Record.withDefault ["stop_loss_pct"] Record.decimal? standard.stopLoss
    let takeProfit ← Record.withDefault ["take_profit_pct"] Record.decimal? standard.takeProfit
    let feeRate ← Record.withDefault ["fee_rate"] Record.decimal? standard.feeRate
    let ladder ← Record.withDefault ["ladder"] Ladder.ofJson? standard.ladder
    let retryPause ←
      Record.withDefault ["force_exit_retry_ms"] (t.nat? limit64) standard.retryPause
    let haltFile ← Record.optional ["kill_file"] t.text?
    pure ⟨maxSlippage, stopLoss, takeProfit, feeRate, ladder, retryPause, haltFile⟩

/-- The settings as data. -/
def toJson (s : Settings) : Json :=
  .obj [("max_slippage", .str s.maxSlippage.render), ("stop_loss_pct", .str s.stopLoss.render),
    ("take_profit_pct", .str s.takeProfit.render), ("fee_rate", .str s.feeRate.render),
    ("ladder", s.ladder.toJson), ("force_exit_retry_ms", .nat s.retryPause),
    ("kill_file", Json.ofOption Json.str s.haltFile)]

/-- The prices of stop and target for a fill. -/
def exitLevels? (s : Settings) (side : Side) (price : Decimal) : Option (Decimal × Decimal) := do
  let below (distance : Decimal) : Option Decimal := do
    let factor ← Decimal.sub? Decimal.one distance
    Decimal.mul? price factor
  let above (distance : Decimal) : Option Decimal := do
    let factor ← Decimal.add? Decimal.one distance
    Decimal.mul? price factor
  match side with
  | .buy => some (← below s.stopLoss, ← above s.takeProfit)
  | .sell => some (← above s.stopLoss, ← below s.takeProfit)

/-- The fee on a quantity at a price. -/
def fee? (s : Settings) (quantity price : Decimal) : Option Decimal := do
  let notional ← Decimal.mul? quantity price
  let fee ← Decimal.mul? notional s.feeRate
  some (fee.round 8)

end Settings

/-- How much worse than expected a price is, as a share of the expected price. -/
def slippage? (side : Side) (expected actual : Decimal) : Option Decimal :=
  if expected.isZero then some Decimal.zero
  else do
    let loss ← match side with
      | .buy => Decimal.sub? actual expected
      | .sell => Decimal.sub? expected actual
    Decimal.div? loss expected

end TradingDesk.Execution
