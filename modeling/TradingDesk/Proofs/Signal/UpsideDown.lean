import Mathlib.Logic.Function.Basic
import TradingDesk.Proofs.Decimal.Negation
import TradingDesk.Signal.Candlestick

/-!
# Candles Upside Down

A candle is turned upside down by negating its prices, which makes its lowest price the highest one.
A rise becomes a fall and the lower wick the upper one, while body and range keep their sizes.  What
speaks for a rise in some candles is therefore exactly what speaks for a fall in the turned ones: in
the engulfing pattern and in the wicks, at equal prices and without a range, and also where a size
is out of range.
-/

namespace TradingDesk

open Decimal (Alike)

/-! ## Turned candles -/

namespace Candle

/-- The candle with negated prices; its highest and lowest price change places. -/
def upsideDown (c : Candle) : Candle :=
  { c with
    opening := c.opening.neg
    high := c.low.neg
    low := c.high.neg
    close := c.close.neg }

theorem upsideDown_involutive : Function.Involutive upsideDown := by
  intro c
  simp [upsideDown]

theorem isBullish_upsideDown (c : Candle) : c.upsideDown.isBullish = c.isBearish :=
  decide_eq_decide.2 Decimal.neg_lt_neg_iff

theorem isBearish_upsideDown (c : Candle) : c.upsideDown.isBearish = c.isBullish :=
  decide_eq_decide.2 Decimal.neg_lt_neg_iff

theorem body?_upsideDown (c : Candle) : c.upsideDown.body? = c.body? :=
  Decimal.map_abs_sub?_neg_neg c.close c.opening

theorem range?_upsideDown (c : Candle) : Option.Rel Alike c.upsideDown.range? c.range? :=
  Decimal.sub?_neg_neg c.high c.low

theorem lowerWick?_upsideDown (c : Candle) :
    Option.Rel Alike c.upsideDown.lowerWick? c.upperWick? := by
  change Option.Rel Alike (Decimal.sub? (c.opening.neg.min c.close.neg) c.high.neg) _
  rw [Decimal.min_neg_neg]
  exact Decimal.sub?_neg_neg c.high (c.opening.max c.close)

theorem upperWick?_upsideDown (c : Candle) :
    Option.Rel Alike c.upsideDown.upperWick? c.lowerWick? := by
  change Option.Rel Alike (Decimal.sub? c.low.neg (c.opening.neg.max c.close.neg)) _
  rw [Decimal.max_neg_neg]
  exact Decimal.sub?_neg_neg (c.opening.min c.close) c.low

end Candle

namespace Signal

/-! ## Patterns of turned candles -/

theorem bullishEngulfing_upsideDown (previous last : Candle) :
    bullishEngulfing previous.upsideDown last.upsideDown = bearishEngulfing previous last := by
  have opens : last.upsideDown.opening ≤ previous.upsideDown.close ↔
      previous.close ≤ last.opening := Decimal.neg_le_neg_iff
  have closes : previous.upsideDown.opening ≤ last.upsideDown.close ↔
      last.close ≤ previous.opening := Decimal.neg_le_neg_iff
  rw [bullishEngulfing, Candle.isBearish_upsideDown, Candle.isBullish_upsideDown,
    decide_eq_decide.2 opens, decide_eq_decide.2 closes, bearishEngulfing]

/-- A dominating wick is a matter of sizes, and of these a zero may have any form. -/
theorem wickDominates?_congr {c c' : Candle}
    {long? short? long?' short?' : Candle → Option Decimal}
    (range : Option.Rel Alike c.range? c'.range?) (body : c.body? = c'.body?)
    (long : Option.Rel Alike (long? c) (long?' c'))
    (short : Option.Rel Alike (short? c) (short?' c')) :
    wickDominates? c long? short? = wickDominates? c' long?' short?' := by
  unfold wickDominates?
  rw [body]
  refine bind_eq_of_rel range fun r r' sameRange ↦ ?_
  rw [sameRange.isZero_eq]
  -- Everything is divided by the range, so the candles need the same one, unless there is none.
  split
  · rfl
  · rename_i extended
    obtain rfl := sameRange.eq_of_not_isZero extended
    refine Option.bind_congr fun b _ ↦ ?_
    refine bind_eq_of_rel long fun l l' sameLong ↦ ?_
    refine Option.bind_congr fun doubled _ ↦ ?_
    refine if_congr sameLong.lt_iff_left rfl ?_
    refine bind_eq_of_rel short fun s s' sameShort ↦ ?_
    refine Option.bind_congr fun tenth _ ↦ ?_
    refine if_congr sameShort.lt_iff_right rfl ?_
    rw [sameLong.div?_eq]

theorem hammer?_upsideDown (c : Candle) : hammer? c.upsideDown = shootingStar? c :=
  wickDominates?_congr c.range?_upsideDown c.body?_upsideDown c.lowerWick?_upsideDown
    c.upperWick?_upsideDown

theorem candlestick?_buy_upsideDown (previous last : Candle) :
    candlestick? .buy previous.upsideDown last.upsideDown = candlestick? .sell previous last := by
  rw [candlestick?, bullishEngulfing_upsideDown, hammer?_upsideDown, candlestick?]

/-- Two candles show a pattern for a side exactly when they show one for the other side after they
were turned upside down, and sizes are out of range in both or in neither.  The single patterns turn
into each other. -/
theorem patterns_turn_with_prices (previous last : Candle) :
    (∀ side, candlestick? side previous last =
        candlestick? side.opposite previous.upsideDown last.upsideDown) ∧
      bearishEngulfing previous last =
        bullishEngulfing previous.upsideDown last.upsideDown ∧
      shootingStar? last = hammer? last.upsideDown := by
  refine ⟨fun side ↦ ?_, (bullishEngulfing_upsideDown previous last).symm,
    (hammer?_upsideDown last).symm⟩
  cases side with
  | sell => exact (candlestick?_buy_upsideDown previous last).symm
  | buy =>
    have back := candlestick?_buy_upsideDown previous.upsideDown last.upsideDown
    rwa [Candle.upsideDown_involutive, Candle.upsideDown_involutive] at back

/-- A candle that opens and closes at its lowest price speaks for a fall, and turned for a rise. -/
example :
    let star : Candle :=
      { timestamp := Instant.epoch
        opening := Decimal.const 10 0
        high := Decimal.const 20 0
        low := Decimal.const 10 0
        close := Decimal.const 100 1
        volume := Decimal.zero }
    candlestick? .sell star star = some true ∧ candlestick? .buy star star = some false ∧
      candlestick? .buy star.upsideDown star.upsideDown = some true := by
  decide +kernel

end Signal

end TradingDesk
