import Mathlib.Tactic.Common
import TradingDesk.Signal.Indicator

/-!
# Later Bars

Every indicator runs forward from a seed over the first bars.  Bars that are added at the end of a
series leave its first bars where they are, so they leave the seed and all values that followed from
it: the values of the shorter series are the first ones of the longer series, bit for bit.

The convergence histogram combines averages that start at different bars.  Where one average starts
after another is the difference of their periods, whatever the length of the series, so the values
that are set against each other stay the same when bars are added.
-/

namespace TradingDesk.Signal

section Prefixes

variable {α β γ σ : Type} {xs xs' : List α} {ys ys' : List β}

theorem begins_drop (h : xs <+: xs') (n : ℕ) : xs.drop n <+: xs'.drop n := by
  obtain ⟨more, rfl⟩ := h
  rw [List.drop_append]
  exact List.prefix_append _ _

theorem begins_zipWith (f : α → β → γ) (hx : xs <+: xs') (hy : ys <+: ys') :
    xs.zipWith f ys <+: xs'.zipWith f ys' := by
  obtain ⟨moreX, rfl⟩ := hx
  obtain ⟨moreY, rfl⟩ := hy
  induction xs generalizing ys with
  | nil => exact List.nil_prefix
  | cons x xs ih =>
    cases ys with
    | nil => exact List.nil_prefix
    | cons y ys => exact List.cons_prefix_cons.2 ⟨rfl, ih⟩

theorem seeded?_of_le {n : ℕ} (enough : n ≤ xs.length) (step : σ → α → σ) (seed : List α → σ) :
    seeded? step seed n xs = some (running step (seed (xs.take n)) (xs.drop n)) :=
  if_neg (Nat.not_lt.2 enough)

theorem latest?_of_le {n : ℕ} (enough : n ≤ xs.length) :
    latest? n xs = some (xs.drop (xs.length - n)) :=
  if_neg (Nat.not_lt.2 enough)

/-- A running computation that takes its seed from the first values of a series. -/
theorem begins_running (step : σ → α → σ) (seed : List α → σ) {n : ℕ} (h : xs <+: xs')
    (enough : n ≤ xs.length) :
    running step (seed (xs.take n)) (xs.drop n) <+:
      running step (seed (xs'.take n)) (xs'.drop n) := by
  obtain ⟨more, rfl⟩ := h
  rw [List.take_append_of_le_length enough, List.drop_append_of_le_length enough]
  exact running_prefix step _ _ more

end Prefixes

variable {values values' : List Float} {candles candles' : List Candle} {period fast slow : ℕ}

/-! ## Moving averages -/

theorem ema?_of_short (short : period = 0 ∨ values.length < period) :
    ema? values period = some [] :=
  if_pos short

theorem ema?_of_le (positive : 0 < period) (enough : period ≤ values.length) :
    ema? values period = some (running (approach (Binary64.ofNat period))
      (meanOf (Binary64.ofNat period) (values.take period)) (values.drop period)) := by
  rw [ema?, if_neg (by omega)]
  exact seeded?_of_le enough _ _

/-- The first values that an average needs are there. -/
theorem ema?_eq_some (values : List Float) (period : ℕ) :
    ema? values period = some (ema values period) := by
  by_cases short : period = 0 ∨ values.length < period
  · rw [ema, ema?_of_short short]
    rfl
  · rw [ema, ema?_of_le (by omega) (by omega)]
    rfl

theorem ema_of_short (short : period = 0 ∨ values.length < period) : ema values period = [] := by
  rw [ema, ema?_of_short short]
  rfl

theorem ema_of_le (positive : 0 < period) (enough : period ≤ values.length) :
    ema values period = running (approach (Binary64.ofNat period))
      (meanOf (Binary64.ofNat period) (values.take period)) (values.drop period) := by
  rw [ema, ema?_of_le positive enough]
  rfl

theorem ema_zero (values : List Float) : ema values 0 = [] :=
  ema_of_short (.inl rfl)

theorem length_ema (positive : 0 < period) :
    (ema values period).length = values.length + 1 - period := by
  by_cases short : period = 0 ∨ values.length < period
  · rw [ema_of_short short, List.length_nil]
    omega
  · rw [ema_of_le positive (by omega), length_running, List.length_drop]
    omega

theorem ema_begins (h : values <+: values') (period : ℕ) :
    ema values period <+: ema values' period := by
  by_cases short : period = 0 ∨ values.length < period
  · rw [ema_of_short short]
    exact List.nil_prefix
  · have longer := h.length_le
    rw [ema_of_le (by omega) (by omega), ema_of_le (by omega) (by omega)]
    exact begins_running _ (meanOf (Binary64.ofNat period)) h (by omega)

/-- The fast average less the slow one, from the first bar that has both. -/
def convergence (closes : List Float) (fast slow : ℕ) : List Float :=
  (ema closes slow).zipWith (fun s f ↦ f - s) ((ema closes fast).drop (slow - fast))

/-- The bars at which two averages start differ by their periods, so that the histogram needs no
length to line them up. -/
theorem macdHistogram?_eq (positive : 0 < fast) (shorter : fast < slow) (closes : List Float)
    (signal : ℕ) :
    macdHistogram? closes fast slow signal =
      some (((convergence closes fast slow).drop (signal - 1)).zipWith (· - ·)
        (ema (convergence closes fast slow) signal)) := by
  have countFast : (ema closes fast).length = closes.length + 1 - fast := length_ema positive
  have countSlow : (ema closes slow).length = closes.length + 1 - slow := length_ema (by omega)
  rw [macdHistogram?, if_neg (Nat.not_le.2 shorter), ema?_eq_some, ema?_eq_some]
  simp only [Option.bind_eq_bind, Option.bind_some]
  split
  · rename_i early
    rw [convergence, List.isEmpty_iff.1 early, List.zipWith_nil_left, List.drop_nil,
      List.zipWith_nil_left]
  · rename_i started
    rw [List.isEmpty_iff_length_eq_zero, countSlow] at started
    have offset : (ema closes fast).length - (ema closes slow).length = slow - fast := by omega
    rw [latest?_of_le (by omega), offset, Option.bind_some, ← convergence, ema?_eq_some,
      Option.bind_some]
    split
    · rename_i unsignalled
      rw [List.isEmpty_iff.1 unsignalled, List.zipWith_nil_right]
    · rename_i signalled
      have positive' : 0 < signal := by
        apply Nat.pos_of_ne_zero
        rintro rfl
        exact signalled (List.isEmpty_iff.2 (ema_zero _))
      have countSignal : (ema (convergence closes fast slow) signal).length =
          (convergence closes fast slow).length + 1 - signal := length_ema positive'
      rw [List.isEmpty_iff_length_eq_zero, countSignal] at signalled
      have offset' : (convergence closes fast slow).length -
          (ema (convergence closes fast slow) signal).length = signal - 1 := by omega
      rw [latest?_of_le (by omega), offset']
      rfl

theorem convergence_begins (h : values <+: values') (fast slow : ℕ) :
    convergence values fast slow <+: convergence values' fast slow :=
  begins_zipWith _ (ema_begins h slow) (begins_drop (ema_begins h fast) _)

theorem macdHistogram?_begins (positive : 0 < fast) (shorter : fast < slow)
    (h : values <+: values') (signal : ℕ) :
    ∃ histogram histogram', macdHistogram? values fast slow signal = some histogram ∧
      macdHistogram? values' fast slow signal = some histogram' ∧ histogram <+: histogram' := by
  have line := convergence_begins h fast slow
  refine ⟨_, _, macdHistogram?_eq positive shorter values signal,
    macdHistogram?_eq positive shorter values' signal, ?_⟩
  exact begins_zipWith _ (begins_drop line _) (ema_begins line signal)

/-! ## Relative strength -/

theorem length_changes (values : List Float) : (changes values).length = values.length - 1 := by
  rw [changes, List.length_zipWith, List.length_drop]
  omega

theorem rsi?_of_short (short : period = 0 ∨ values.length ≤ period) :
    rsi? values period = some [] :=
  if_pos short

theorem rsi?_of_lt (positive : 0 < period) (enough : period < values.length) :
    rsi? values period = some ((running (nextAverages (Binary64.ofNat period))
      (firstAverages (Binary64.ofNat period) ((changes values).take period))
      ((changes values).drop period)).map fun (gain, loss) ↦ strength gain loss) := by
  have moves : period ≤ (changes values).length := by
    rw [length_changes]
    omega
  rw [rsi?, if_neg (by omega)]
  dsimp only
  rw [seeded?_of_le moves]
  rfl

/-- The first changes that an index needs are there, although they are one fewer than the closes. -/
theorem rsi?_eq_some (closes : List Float) (period : ℕ) :
    rsi? closes period = some (rsi closes period) := by
  by_cases short : period = 0 ∨ closes.length ≤ period
  · rw [rsi, rsi?_of_short short]
    rfl
  · rw [rsi, rsi?_of_lt (by omega) (by omega)]
    rfl

theorem rsi_of_short (short : period = 0 ∨ values.length ≤ period) : rsi values period = [] := by
  rw [rsi, rsi?_of_short short]
  rfl

theorem rsi_of_lt (positive : 0 < period) (enough : period < values.length) :
    rsi values period = (running (nextAverages (Binary64.ofNat period))
      (firstAverages (Binary64.ofNat period) ((changes values).take period))
      ((changes values).drop period)).map fun (gain, loss) ↦ strength gain loss := by
  rw [rsi, rsi?_of_lt positive enough]
  rfl

theorem rsi_begins (h : values <+: values') (period : ℕ) :
    rsi values period <+: rsi values' period := by
  by_cases short : period = 0 ∨ values.length ≤ period
  · rw [rsi_of_short short]
    exact List.nil_prefix
  · have longer := h.length_le
    have moves : changes values <+: changes values' := begins_zipWith _ h (begins_drop h 1)
    have enough : period ≤ (changes values).length := by
      rw [length_changes]
      omega
    rw [rsi_of_lt (by omega) (by omega), rsi_of_lt (by omega) (by omega)]
    apply List.IsPrefix.map
    exact begins_running _ (firstAverages (Binary64.ofNat period)) moves enough

/-! ## Volume-weighted price -/

/-- Prices that the longer series has, the shorter one has too. -/
theorem vwapFrom?_begins {w : Weighted} {later : List Candle} {prices : List Float}
    (h : vwapFrom? w (candles ++ later) = some prices) :
    ∃ earlier, vwapFrom? w candles = some earlier ∧ earlier <+: prices := by
  induction candles generalizing w prices with
  | nil => exact ⟨[], rfl, List.nil_prefix⟩
  | cons candle candles ih =>
    obtain ⟨next, weighed, h⟩ := Option.bind_eq_some_iff.1 h
    obtain ⟨rest, found, h⟩ := Option.bind_eq_some_iff.1 h
    cases h
    obtain ⟨earlier, known, first⟩ := ih found
    refine ⟨next.price :: earlier, ?_, List.cons_prefix_cons.2 ⟨rfl, first⟩⟩
    rw [vwapFrom?, weighed, Option.bind_eq_bind, Option.bind_some, known]
    rfl

/-! ## Directional movement -/

/-- The movements of a series of candles, from each one to the next. -/
def movements (candles : List Candle) : List Movement :=
  candles.zipWith Movement.between (candles.drop 1)

theorem length_movements (candles : List Candle) :
    (movements candles).length = candles.length - 1 := by
  rw [movements, List.length_zipWith, List.length_drop]
  omega

theorem movements_begins (h : candles <+: candles') : movements candles <+: movements candles' :=
  begins_zipWith _ h (begins_drop h 1)

/-- The directional indices before they are averaged. -/
def indices (candles : List Candle) (period : ℕ) : List Float :=
  (running (Movement.smooth (Binary64.ofNat period))
    (Movement.total ((movements candles).take period)) ((movements candles).drop period)).map
      Movement.directional

theorem indices_begins (h : candles <+: candles') (long : period < candles.length) :
    indices candles period <+: indices candles' period := by
  apply List.IsPrefix.map
  apply begins_running _ Movement.total (movements_begins h)
  rw [length_movements]
  omega

/-- Two periods of bars leave enough indices for their own average. -/
theorem length_indices (long : period < candles.length) :
    (indices candles period).length = candles.length - period := by
  rw [indices, List.length_map, length_running, List.length_drop, length_movements]
  omega

theorem adxOf?_of_short (short : period = 0 ∨ candles.length < 2 * period + 1) :
    adxOf? candles period = some [] :=
  if_pos short

theorem adxOf?_of_le (positive : 0 < period) (long : 2 * period + 1 ≤ candles.length) :
    adxOf? candles period = some (running (moveOn (Binary64.ofNat period))
      (meanOf (Binary64.ofNat period) ((indices candles period).take period))
      ((indices candles period).drop period)) := by
  have moves : period ≤ (movements candles).length := by
    rw [length_movements]
    omega
  have count : (indices candles period).length = candles.length - period :=
    length_indices (by omega)
  rw [adxOf?, if_neg (by omega), ← movements]
  dsimp only
  rw [seeded?_of_le moves, Option.bind_eq_bind, Option.bind_some, ← indices, if_neg (by omega)]
  exact seeded?_of_le (by omega) _ _

/-- The first movements and the first indices that an average needs are there. -/
theorem adxOf?_eq_some (candles : List Candle) (period : ℕ) :
    adxOf? candles period = some (adx candles period) := by
  by_cases short : period = 0 ∨ candles.length < 2 * period + 1
  · rw [adx, adxOf?_of_short short]
    rfl
  · rw [adx, adxOf?_of_le (by omega) (by omega)]
    rfl

theorem adx_of_short (short : period = 0 ∨ candles.length < 2 * period + 1) :
    adx candles period = [] := by
  rw [adx, adxOf?_of_short short]
  rfl

theorem adx_of_le (positive : 0 < period) (long : 2 * period + 1 ≤ candles.length) :
    adx candles period = running (moveOn (Binary64.ofNat period))
      (meanOf (Binary64.ofNat period) ((indices candles period).take period))
      ((indices candles period).drop period) := by
  rw [adx, adxOf?_of_le positive long]
  rfl

theorem adx_begins (h : candles <+: candles') (period : ℕ) :
    adx candles period <+: adx candles' period := by
  by_cases short : period = 0 ∨ candles.length < 2 * period + 1
  · rw [adx_of_short short]
    exact List.nil_prefix
  · have longer := h.length_le
    have count : (indices candles period).length = candles.length - period :=
      length_indices (by omega)
    rw [adx_of_le (by omega) (by omega), adx_of_le (by omega) (by omega)]
    exact begins_running _ (meanOf (Binary64.ofNat period)) (indices_begins h (by omega)) (by omega)

/-! ## All indicators -/

/-- Whether the series of some indicators begin those of others. -/
structure Indicators.Begins (i i' : Indicators) : Prop where
  rsi : i.rsi <+: i'.rsi
  macdHistogram : i.macdHistogram <+: i'.macdHistogram
  ema21 : i.ema21 <+: i'.ema21
  vwap : i.vwap <+: i'.vwap
  adx : i.adx <+: i'.adx

/-- The indicators of a market begin those that it has when its bars go on. -/
theorem Indicators.ofCandles?_begins {later : List Candle} {i' : Indicators}
    (h : ofCandles? (candles ++ later) = some i') :
    ∃ i, ofCandles? candles = some i ∧ i.Begins i' := by
  have closes : candles.map (·.close.toFloat) <+: (candles ++ later).map (·.close.toFloat) :=
    (List.prefix_append candles later).map _
  obtain ⟨macd, macd', early, late, first⟩ :=
    macdHistogram?_begins (by decide : 0 < 12) (by decide : 12 < 26) closes 9
  simp only [ofCandles?, rsi?_eq_some, late, ema?_eq_some, Option.bind_eq_bind,
    Option.bind_some] at h
  obtain ⟨prices, weighed, h⟩ := Option.bind_eq_some_iff.1 h
  obtain ⟨earlier, weighed', first'⟩ := vwapFrom?_begins weighed
  have weighed' : vwap? candles = some earlier := weighed'
  obtain ⟨directional, smoothed, h⟩ := Option.bind_eq_some_iff.1 h
  obtain rfl := Option.some.inj (smoothed.symm.trans (adxOf?_eq_some (candles ++ later) 14))
  cases h
  refine ⟨⟨Signal.rsi (candles.map (·.close.toFloat)) 14, macd,
    ema (candles.map (·.close.toFloat)) 21, earlier, Signal.adx candles 14⟩, ?_,
    rsi_begins closes 14, first, ema_begins closes 21, first',
    adx_begins (List.prefix_append candles later) 14⟩
  have smoothed' : adx? candles 14 = some (Signal.adx candles 14) := adxOf?_eq_some candles 14
  simp only [ofCandles?, rsi?_eq_some, early, ema?_eq_some, weighed', smoothed',
    Option.bind_eq_bind, Option.bind_some]

/-- Later bars never change the values of an indicator that an earlier bar has.  The values of a
series are the first ones of every longer series, and the series has them when the longer one
does. -/
theorem indicators_never_repaint (values more : List Float) (candles later : List Candle) :
    (∀ period, ema? values period = some (ema values period) ∧
        ema values period <+: ema (values ++ more) period) ∧
      (∀ period, rsi? values period = some (rsi values period) ∧
        rsi values period <+: rsi (values ++ more) period) ∧
      (∀ fast slow signal, 0 < fast → fast < slow → ∃ histogram histogram',
        macdHistogram? values fast slow signal = some histogram ∧
          macdHistogram? (values ++ more) fast slow signal = some histogram' ∧
          histogram <+: histogram') ∧
      (∀ prices, vwap? (candles ++ later) = some prices →
        ∃ earlier, vwap? candles = some earlier ∧ earlier <+: prices) ∧
      ∀ period, adxOf? candles period = some (adx candles period) ∧
        adx candles period <+: adx (candles ++ later) period ∧
        Option.Rel (· <+: ·) (adx? candles period) (adx? (candles ++ later) period) := by
  have longer : values <+: values ++ more := List.prefix_append values more
  have extended : candles <+: candles ++ later := List.prefix_append candles later
  refine ⟨?_, ?_, ?_, fun _ h ↦ vwapFrom?_begins h, ?_⟩
  · exact fun period ↦ ⟨ema?_eq_some values period, ema_begins longer period⟩
  · exact fun period ↦ ⟨rsi?_eq_some values period, rsi_begins longer period⟩
  · intro fast slow signal positive shorter
    exact macdHistogram?_begins positive shorter longer signal
  · intro period
    have first := adx_begins extended period
    refine ⟨adxOf?_eq_some candles period, first, ?_⟩
    unfold adx?
    split
    · exact .none
    · rw [adxOf?_eq_some, adxOf?_eq_some]
      exact .some first

/-- A bar around a whole price. -/
def bar (price : ℕ) : Candle :=
  { timestamp := Instant.epoch
    opening := Decimal.const price 0
    high := Decimal.const (price + 1) 0
    low := Decimal.const (price - 1) 0
    close := Decimal.const price 0
    volume := Decimal.const 10 0 }

/-- Two more bars after four closes and four bars: the histogram keeps its two values and the
weighted price its four. -/
theorem indicators_never_repaint_fourBars : ∃ histogram histogram' prices earlier,
    macdHistogram? [1.0, 2.0, 4.0, 3.0] 1 2 2 = some histogram ∧
      macdHistogram? ([1.0, 2.0, 4.0, 3.0] ++ [8.0, 1.0]) 1 2 2 = some histogram' ∧
      histogram <+: histogram' ∧ histogram.length = 2 ∧ histogram'.length = 4 ∧
      vwap? ([bar 1, bar 2, bar 4, bar 3] ++ [bar 8, bar 1]) = some prices ∧
      vwap? [bar 1, bar 2, bar 4, bar 3] = some earlier ∧ earlier <+: prices ∧
      earlier.length = 4 := by
  obtain ⟨-, -, histograms, weighted, -⟩ := indicators_never_repaint [1.0, 2.0, 4.0, 3.0] [8.0, 1.0]
    [bar 1, bar 2, bar 4, bar 3] [bar 8, bar 1]
  obtain ⟨histogram, histogram', early, late, first⟩ := histograms 1 2 2 (by decide) (by decide)
  have shown : (vwap? ([bar 1, bar 2, bar 4, bar 3] ++ [bar 8, bar 1])).isSome := by
    decide +kernel
  obtain ⟨prices, weighed⟩ := Option.isSome_iff_exists.1 shown
  obtain ⟨earlier, weighed', first'⟩ := weighted prices weighed
  have counts : (macdHistogram? [1.0, 2.0, 4.0, 3.0] 1 2 2).map List.length = some 2 ∧
      (macdHistogram? ([1.0, 2.0, 4.0, 3.0] ++ [8.0, 1.0]) 1 2 2).map List.length = some 4 ∧
      (vwap? [bar 1, bar 2, bar 4, bar 3]).map List.length = some 4 := by
    decide +kernel
  rw [early, late, weighed'] at counts
  exact ⟨histogram, histogram', prices, earlier, early, late, first, Option.some.inj counts.1,
    Option.some.inj counts.2.1, weighed, weighed', first', Option.some.inj counts.2.2⟩

end TradingDesk.Signal
