import TradingDesk.Binary64.Basic
import TradingDesk.Candle

/-!
# Technical Indicators

An indicator is a series over the bars of a market that starts once enough bars are known and whose
last value belongs to the last bar.  Each is a running computation: a seed over the first bars and
one step for every further bar, so that later bars never change earlier values.

The relative strength index is 50 without any movement and 100 without losses.  The average
directional index smooths true ranges and directional movements over one period and their
directional index over another.  Periods that leave no room for a value give an empty series.

To take more values from a series than it has is a fault, and so are a doubled period beyond 64 bits
and an average price out of range.  An indicator with a fault is `none`.
-/

namespace TradingDesk.Signal

/-- All states of a running computation, from its seed on. -/
def running {σ α : Type} (step : σ → α → σ) (seed : σ) : List α → List σ
  | [] => [seed]
  | x :: xs => seed :: running step (step seed x) xs

/-- A running computation whose seed is made of the first `period` values; a fault if there are
fewer. -/
def seeded? {σ α : Type} (step : σ → α → σ) (seed : List α → σ) (period : Nat) (xs : List α) :
    Option (List σ) :=
  if xs.length < period then none
  else some (running step (seed (xs.take period)) (xs.drop period))

/-- The last `count` values of a series; a fault if there are fewer. -/
def latest? {α : Type} (count : Nat) (series : List α) : Option (List α) :=
  if series.length < count then none else some (series.drop (series.length - count))

/-- The last value of a series and the one before it. -/
def lastTwo? {α : Type} (series : List α) : Option (α × α) :=
  match series.reverse with
  | last :: previous :: _ => some (last, previous)
  | _ => none

/-! ## Moving averages -/

/-- The mean of values that are `n` in number. -/
def meanOf (n : Float) (values : List Float) : Float :=
  Binary64.sum values / n

/-- An exponential average over `n` values after one more of them. -/
def approach (n previous v : Float) : Float :=
  (v - previous) * (2.0 / (n + 1.0)) + previous

/-- The exponential moving average from the mean of the first `period` values. -/
def ema? (values : List Float) (period : Nat) : Option (List Float) :=
  if period = 0 ∨ values.length < period then some []
  else
    let n := Binary64.ofNat period
    seeded? (approach n) (meanOf n) period values

/-- The values of the exponential moving average. -/
def ema (values : List Float) (period : Nat) : List Float :=
  (ema? values period).getD []

/-- The difference of a fast and a slow average less its own average. -/
def macdHistogram? (closes : List Float) (fast slow signal : Nat) : Option (List Float) :=
  if slow ≤ fast then some []
  else do
    let fastAverage ← ema? closes fast
    let slowAverage ← ema? closes slow
    if slowAverage.isEmpty then some []
    else
      let aligned ← latest? slowAverage.length fastAverage
      let line := slowAverage.zipWith (fun s f ↦ f - s) aligned
      let signalLine ← ema? line signal
      if signalLine.isEmpty then some []
      else
        let shown ← latest? signalLine.length line
        some (shown.zipWith (· - ·) signalLine)

/-! ## Relative strength -/

/-- The index of an average gain and an average loss. -/
def strength (gain loss : Float) : Float :=
  if loss == 0.0 then if gain == 0.0 then 50.0 else 100.0
  else 100.0 - 100.0 / (1.0 + gain / loss)

/-- The change from each value to the next. -/
def changes (values : List Float) : List Float :=
  values.zipWith (fun previous v ↦ v - previous) (values.drop 1)

/-- The part of a change that is a gain. -/
def gainOf (change : Float) : Float :=
  Binary64.max change 0.0

/-- The part of a change that is a loss. -/
def lossOf (change : Float) : Float :=
  Binary64.max (-change) 0.0

/-- An average over `n` values with one more of them in place of an average one. -/
def moveOn (n average v : Float) : Float :=
  (average * (n - 1.0) + v) / n

/-- The average gain and the average loss of the first changes. -/
def firstAverages (n : Float) (first : List Float) : Float × Float :=
  (meanOf n (first.map gainOf), meanOf n (first.map lossOf))

/-- The average gain and the average loss after one more change. -/
def nextAverages (n : Float) (averages : Float × Float) (change : Float) : Float × Float :=
  (moveOn n averages.1 (gainOf change), moveOn n averages.2 (lossOf change))

/-- The relative strength index. -/
def rsi? (closes : List Float) (period : Nat) : Option (List Float) :=
  if period = 0 ∨ closes.length ≤ period then some []
  else
    let n := Binary64.ofNat period
    (seeded? (nextAverages n) (firstAverages n) period (changes closes)).map fun averages ↦
      averages.map fun (gain, loss) ↦ strength gain loss

/-- The values of the relative strength index. -/
def rsi (closes : List Float) (period : Nat) : List Float :=
  (rsi? closes period).getD []

/-! ## Volume-weighted price -/

/-- Price times volume and volume up to a bar, and the price to show for the bar. -/
structure Weighted where
  amount : Float
  volume : Float
  price : Float

/-- The state after one more bar. -/
def Weighted.next? (w : Weighted) (c : Candle) : Option Weighted := do
  let typical ← c.typicalPrice?
  let traded := c.volume.toFloat
  let amount := w.amount + typical * traded
  let volume := w.volume + traded
  some ⟨amount, volume, if 0.0 < volume then amount / volume else typical⟩

/-- The prices of the bars after a state. -/
def vwapFrom? (w : Weighted) : List Candle → Option (List Float)
  | [] => some []
  | c :: rest => do
    let next ← w.next? c
    let prices ← vwapFrom? next rest
    some (next.price :: prices)

/-- The average price weighted by volume over all bars so far. -/
def vwap? (candles : List Candle) : Option (List Float) :=
  vwapFrom? ⟨0.0, 0.0, 0.0⟩ candles

/-! ## Directional movement -/

/-- True range and directional movements, of one bar or smoothed. -/
structure Movement where
  range : Float
  plus : Float
  minus : Float

/-- The movement from one bar to the next. -/
def Movement.between (previous current : Candle) : Movement :=
  let high := current.high.toFloat
  let low := current.low.toFloat
  let close := previous.close.toFloat
  let range := Binary64.max (Binary64.max (high - low) (high - close).abs) (low - close).abs
  let up := high - previous.high.toFloat
  let down := previous.low.toFloat - low
  { range := range
    plus := if down < up && 0.0 < up then up else 0.0
    minus := if up < down && 0.0 < down then down else 0.0 }

/-- The directional index of smoothed movements. -/
def Movement.directional (m : Movement) : Float :=
  if m.range ≤ 0.0 then 0.0
  else
    let plus := 100.0 * m.plus / m.range
    let minus := 100.0 * m.minus / m.range
    if plus + minus == 0.0 then 0.0 else 100.0 * (plus - minus).abs / (plus + minus)

/-- Smoothed movements after one more bar. -/
def Movement.smooth (n : Float) (m next : Movement) : Movement :=
  ⟨m.range - m.range / n + next.range, m.plus - m.plus / n + next.plus,
    m.minus - m.minus / n + next.minus⟩

/-- The sum of movements. -/
def Movement.total (ms : List Movement) : Movement :=
  ⟨Binary64.sum (ms.map (·.range)), Binary64.sum (ms.map (·.plus)), Binary64.sum (ms.map (·.minus))⟩

/-- The average directional index of a period that can be doubled. -/
def adxOf? (candles : List Candle) (period : Nat) : Option (List Float) :=
  if period = 0 ∨ candles.length < 2 * period + 1 then some []
  else do
    let n := Binary64.ofNat period
    let moves := candles.zipWith Movement.between (candles.drop 1)
    let smoothed ← seeded? (Movement.smooth n) Movement.total period moves
    let indices := smoothed.map Movement.directional
    if indices.length < period then some []
    else seeded? (moveOn n) (meanOf n) period indices

/-- The values of the average directional index of a period that can be doubled. -/
def adx (candles : List Candle) (period : Nat) : List Float :=
  (adxOf? candles period).getD []

/-- The average directional index; a fault for periods whose double needs more than 64 bits. -/
def adx? (candles : List Candle) (period : Nat) : Option (List Float) :=
  if limit64 ≤ 2 * period + 1 then none else adxOf? candles period

/-! ## The indicators of a market -/

/-- The indicator series that a signal is scored with. -/
structure Indicators where
  rsi : List Float
  macdHistogram : List Float
  ema21 : List Float
  vwap : List Float
  adx : List Float

namespace Indicators

/-- No indicator has a value yet. -/
def empty : Indicators := ⟨[], [], [], [], []⟩

/-- The indicators of a series of candles in their usual periods. -/
def ofCandles? (candles : List Candle) : Option Indicators := do
  let closes := candles.map fun c ↦ c.close.toFloat
  let rsi ← rsi? closes 14
  let macd ← macdHistogram? closes 12 26 9
  let ema21 ← ema? closes 21
  let vwap ← vwap? candles
  let adx ← adx? candles 14
  some ⟨rsi, macd, ema21, vwap, adx⟩

/-- Reads the series, each of which may be absent. -/
def ofJson? : Json → Option Indicators :=
  let series? := Record.Typing.list? (Record.Typing.float? .strict)
  Record.read? do
    let rsi ← Record.withDefault ["rsi"] series? []
    let macd ← Record.withDefault ["macd_histogram"] series? []
    let ema21 ← Record.withDefault ["ema21"] series? []
    let vwap ← Record.withDefault ["vwap"] series? []
    let adx ← Record.withDefault ["adx"] series? []
    pure ⟨rsi, macd, ema21, vwap, adx⟩

/-- The series as data. -/
def toJson (i : Indicators) : Json :=
  let series := Json.ofList Json.real
  .obj [("rsi", series i.rsi), ("macd_histogram", series i.macdHistogram),
    ("ema21", series i.ema21), ("vwap", series i.vwap), ("adx", series i.adx)]

end Indicators

/-! ## Lengths of series -/

@[simp]
theorem length_running {σ α : Type} (step : σ → α → σ) (seed : σ) (xs : List α) :
    (running step seed xs).length = xs.length + 1 := by
  induction xs generalizing seed with
  | nil => rfl
  | cons x xs ih => simp [running, ih]

theorem running_prefix {σ α : Type} (step : σ → α → σ) (seed : σ) (xs ys : List α) :
    running step seed xs <+: running step seed (xs ++ ys) := by
  induction xs generalizing seed with
  | nil => cases ys <;> simp [running]
  | cons x xs ih => simpa [running] using ih (step seed x)

end TradingDesk.Signal
