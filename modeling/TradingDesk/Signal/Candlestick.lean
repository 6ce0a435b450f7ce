import TradingDesk.Candle
import TradingDesk.Order.Side

/-!
# Candlestick Patterns

Two patterns speak for a rise: a rising candle whose body covers the body of a falling one before
it, and a hammer, whose lower wick is at least half of the range and twice the body while the upper
wick is short.  The same shapes upside down speak for a fall.  A candle without range is no
hammer.

Wicks and bodies are decimals and can leave their range; the conditions are decided one after
another, and the first one that fails ends the decision.
-/

namespace TradingDesk.Signal

/-- A rising candle that covers the falling one before it. -/
def bullishEngulfing (previous last : Candle) : Bool :=
  previous.isBearish && last.isBullish && decide (last.opening ≤ previous.close) &&
    decide (previous.opening ≤ last.close)

/-- A falling candle that covers the rising one before it. -/
def bearishEngulfing (previous last : Candle) : Bool :=
  previous.isBullish && last.isBearish && decide (previous.close ≤ last.opening) &&
    decide (last.close ≤ previous.opening)

/-- Whether one wick dominates a candle: at least twice the body and half the range, the other wick
no longer than the body or a tenth of the range. -/
def wickDominates? (c : Candle) (long? short? : Candle → Option Decimal) : Option Bool := do
  let range ← c.range?
  if range.isZero then
    return false
  let body ← c.body?
  let long ← long? c
  let doubled ← Decimal.mul? body (Decimal.const 2 0)
  if long < doubled then
    return false
  let short ← short? c
  let tenth ← Decimal.div? range (Decimal.const 10 0)
  if body.max tenth < short then
    return false
  let share ← Decimal.div? long range
  return 0.5 ≤ share.toFloat

/-- A long lower wick. -/
def hammer? (c : Candle) : Option Bool :=
  wickDominates? c Candle.lowerWick? Candle.upperWick?

/-- A long upper wick. -/
def shootingStar? (c : Candle) : Option Bool :=
  wickDominates? c Candle.upperWick? Candle.lowerWick?

/-- Whether the last two candles show a pattern for a side. -/
def candlestick? (side : Side) (previous last : Candle) : Option Bool :=
  match side with
  | .buy => if bullishEngulfing previous last then some true else hammer? last
  | .sell => if bearishEngulfing previous last then some true else shootingStar? last

end TradingDesk.Signal
