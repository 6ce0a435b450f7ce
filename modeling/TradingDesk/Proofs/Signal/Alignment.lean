import Mathlib.Tactic.Common
import TradingDesk.Proofs.Decimal.QuotientRange
import TradingDesk.Proofs.Signal.LaterBars

/-!
# Values and Bars

An indicator has no value until enough bars are known, and then gains one with every bar.  The
number of its values is therefore fixed by the number of bars and the periods, and counted from the
end, values and bars go together: the last value belongs to the last bar.

Periods without room for a value give an empty series, zero included, with two exceptions.  A fast
average over no bars is empty beside a slow one that has values, and the two cannot be lined up; and
the double of a period can leave the range of 64 bits.  Beyond these, only prices whose sum has no
decimal leave a market without indicators.
-/

namespace TradingDesk

/-! ## Average prices -/

namespace Candle

/-- The sum of the highest, lowest and closing price. -/
def priceTotal? (c : Candle) : Option Decimal :=
  (Decimal.add? c.high c.low).bind (Decimal.add? · c.close)

/-- A third of a sum that is a decimal is one too. -/
theorem typicalPrice?_eq_none_iff (c : Candle) : c.typicalPrice? = none ↔ c.priceTotal? = none := by
  have third (total : Decimal) : ∃ mean, Decimal.div? total (Decimal.const 3 0) = some mean :=
    Decimal.div?_defined_of_scale (by decide) fun less ↦ absurd less (Nat.not_lt_zero _)
  have split : c.typicalPrice? = c.priceTotal?.bind fun total ↦
      (Decimal.div? total (Decimal.const 3 0)).bind fun mean ↦ some mean.toFloat := by
    rw [priceTotal?, Option.bind_assoc]
    rfl
  rw [split]
  cases c.priceTotal? with
  | none => simp
  | some total =>
    obtain ⟨mean, divided⟩ := third total
    simp [divided]

end Candle

namespace Signal

variable {candles : List Candle} {period fast slow signal : ℕ}

/-! ## Series that keep pace with their bars -/

/-- Whether an indicator has no series exactly over bars with a fault, the given number of values
over all others, and, once it has started, one value more for each further bar. -/
structure Aligned {α : Type} (indicator : List α → Option (List Float)) (fault : List α → Prop)
    (count : ℕ → ℕ) : Prop where
  eq_none_iff (bars : List α) : indicator bars = none ↔ fault bars
  length_eq {bars : List α} {series : List Float} (found : indicator bars = some series) :
    series.length = count bars.length
  goesOn {bars later : List α} {series series' : List Float} (started : series ≠ [])
    (found : indicator bars = some series) (found' : indicator (bars ++ later) = some series') :
    ∃ added, series' = series ++ added ∧ added.length = later.length

/-- Series that begin the longer ones keep pace when their lengths do. -/
theorem aligned_of_begins {α : Type} {indicator : List α → Option (List Float)}
    {fault : List α → Prop} {count : ℕ → ℕ}
    (eq_none_iff : ∀ bars, indicator bars = none ↔ fault bars)
    (length_eq : ∀ bars series, indicator bars = some series → series.length = count bars.length)
    (begins : ∀ bars later series series', 0 < count bars.length → indicator bars = some series →
      indicator (bars ++ later) = some series' → series <+: series')
    (grows : ∀ n more, 0 < count n → count (n + more) = count n + more) :
    Aligned indicator fault count where
  eq_none_iff := eq_none_iff
  length_eq := length_eq _ _
  goesOn := by
    intro bars later series series' started found found'
    have length := length_eq bars series found
    have length' := length_eq (bars ++ later) series' found'
    have positive : 0 < count bars.length := length ▸ List.length_pos_iff.2 started
    obtain ⟨added, rfl⟩ := begins bars later series series' positive found found'
    refine ⟨added, rfl, ?_⟩
    rw [List.length_append, List.length_append, grows _ _ positive, length] at length'
    exact Nat.add_left_cancel length'

/-- An indicator without faults. -/
theorem aligned_of_total {α : Type} {indicator : List α → Option (List Float)}
    {series : List α → List Float} {count : ℕ → ℕ}
    (eq_some : ∀ bars, indicator bars = some (series bars))
    (length_eq : ∀ bars, (series bars).length = count bars.length)
    (begins : ∀ bars later, series bars <+: series (bars ++ later))
    (grows : ∀ n more, 0 < count n → count (n + more) = count n + more) :
    Aligned indicator (fun _ ↦ False) count := by
  apply aligned_of_begins
  · intro bars
    rw [eq_some]
    exact iff_of_false (Option.some_ne_none _) id
  · intro bars answer found
    cases (eq_some bars).symm.trans found
    exact length_eq bars
  · intro bars later answer answer' _ found found'
    cases (eq_some bars).symm.trans found
    cases (eq_some (bars ++ later)).symm.trans found'
    exact begins bars later
  · exact grows

/-! ## Moving averages -/

theorem ema?_aligned (period : ℕ) :
    Aligned (ema? · period) (fun _ ↦ False)
      fun n ↦ if 1 ≤ period ∧ period ≤ n then n - period + 1 else 0 := by
  apply aligned_of_total
  · exact fun values ↦ ema?_eq_some values period
  · intro values
    obtain rfl | positive := Nat.eq_zero_or_pos period
    · rw [ema_zero]
      rfl
    · rw [length_ema positive]
      split <;> omega
  · exact fun values later ↦ ema_begins (List.prefix_append values later) period
  · intro n more
    split_ifs <;> omega

theorem length_convergence (positive : 0 < fast) (shorter : fast < slow) (closes : List Float) :
    (convergence closes fast slow).length = closes.length + 1 - slow := by
  rw [convergence, List.length_zipWith, List.length_drop, length_ema positive,
    length_ema (Nat.zero_lt_of_lt shorter)]
  omega

theorem macdHistogram?_of_le (longer : slow ≤ fast) (closes : List Float) (signal : ℕ) :
    macdHistogram? closes fast slow signal = some [] :=
  if_pos longer

/-- A fast average over no bars is empty and cannot be lined up with one that is not. -/
theorem macdHistogram?_zero (positive : 0 < slow) (closes : List Float) (signal : ℕ) :
    macdHistogram? closes 0 slow signal = if closes.length < slow then some [] else none := by
  have count : (ema closes slow).length = closes.length + 1 - slow := length_ema positive
  rw [macdHistogram?, if_neg (Nat.not_le.2 positive), ema?_eq_some, ema?_eq_some, ema_zero]
  simp only [Option.bind_eq_bind, Option.bind_some]
  by_cases early : closes.length < slow
  · have empty : (ema closes slow).isEmpty = true := by
      rw [List.isEmpty_iff_length_eq_zero, count]
      omega
    rw [if_pos empty, if_pos early]
  · have started : ¬(ema closes slow).isEmpty = true := by
      rw [List.isEmpty_iff_length_eq_zero, count]
      omega
    have behind : ([] : List Float).length < (ema closes slow).length := by
      rw [List.length_nil, count]
      omega
    rw [if_neg started, latest?, if_pos behind, if_neg early]
    rfl

theorem macdHistogram?_eq_none_iff (closes : List Float) (fast slow signal : ℕ) :
    macdHistogram? closes fast slow signal = none ↔
      fast = 0 ∧ 1 ≤ slow ∧ slow ≤ closes.length := by
  obtain shorter | longer := Nat.lt_or_ge fast slow
  · obtain rfl | positive := Nat.eq_zero_or_pos fast
    · rw [macdHistogram?_zero shorter]
      split
      · exact iff_of_false (Option.some_ne_none _) (by omega)
      · rename_i started
        exact iff_of_true rfl ⟨rfl, shorter, Nat.not_lt.1 started⟩
    · rw [macdHistogram?_eq positive shorter]
      exact iff_of_false (Option.some_ne_none _) (by omega)
  · rw [macdHistogram?_of_le longer]
    exact iff_of_false (Option.some_ne_none _) (by omega)

/-- The histogram starts with the average of the convergence, which starts with the slow average. -/
theorem length_macdHistogram? {closes histogram : List Float}
    (h : macdHistogram? closes fast slow signal = some histogram) :
    histogram.length =
      if 1 ≤ fast ∧ fast < slow ∧ 1 ≤ signal ∧ slow + signal - 1 ≤ closes.length then
        closes.length + 2 - slow - signal
      else 0 := by
  obtain shorter | longer := Nat.lt_or_ge fast slow
  · obtain rfl | positive := Nat.eq_zero_or_pos fast
    · rw [macdHistogram?_zero shorter] at h
      split at h
      · cases h
        rw [if_neg (by omega), List.length_nil]
      · cases h
    · rw [macdHistogram?_eq positive shorter] at h
      cases h
      have line := length_convergence positive shorter closes
      rw [List.length_zipWith, List.length_drop, line]
      obtain rfl | signalled := Nat.eq_zero_or_pos signal
      · rw [ema_zero, List.length_nil, Nat.min_zero, if_neg (by omega)]
      · rw [length_ema signalled, line]
        split <;> omega
  · rw [macdHistogram?_of_le longer] at h
    cases h
    rw [if_neg (by omega), List.length_nil]

theorem macdHistogram?_aligned (fast slow signal : ℕ) :
    Aligned (macdHistogram? · fast slow signal)
      (fun closes ↦ fast = 0 ∧ 1 ≤ slow ∧ slow ≤ closes.length)
      fun n ↦ if 1 ≤ fast ∧ fast < slow ∧ 1 ≤ signal ∧ slow + signal - 1 ≤ n then
        n + 2 - slow - signal else 0 := by
  apply aligned_of_begins
  · exact fun closes ↦ macdHistogram?_eq_none_iff closes fast slow signal
  · exact fun closes histogram ↦ length_macdHistogram?
  · intro closes later histogram histogram' started found found'
    -- Only a histogram with values knows that its fast average is one over some bars.
    obtain ⟨positive, shorter, -⟩ : 1 ≤ fast ∧ fast < slow ∧ 1 ≤ signal ∧
        slow + signal - 1 ≤ closes.length := by
      by_contra none
      rw [if_neg none] at started
      exact Nat.lt_irrefl 0 started
    obtain ⟨_, _, early, late, begins⟩ :=
      macdHistogram?_begins positive shorter (List.prefix_append closes later) signal
    cases early.symm.trans found
    cases late.symm.trans found'
    exact begins
  · intro n more
    split_ifs <;> omega

/-! ## Relative strength -/

theorem length_rsi (positive : 0 < period) (closes : List Float) :
    (rsi closes period).length = closes.length - period := by
  by_cases short : period = 0 ∨ closes.length ≤ period
  · rw [rsi_of_short short, List.length_nil]
    omega
  · rw [rsi_of_lt positive (by omega), List.length_map, length_running, List.length_drop,
      length_changes]
    omega

theorem rsi?_aligned (period : ℕ) :
    Aligned (rsi? · period) (fun _ ↦ False)
      fun n ↦ if 1 ≤ period ∧ period < n then n - period else 0 := by
  apply aligned_of_total
  · exact fun closes ↦ rsi?_eq_some closes period
  · intro closes
    obtain rfl | positive := Nat.eq_zero_or_pos period
    · rw [rsi_of_short (.inl rfl)]
      rfl
    · rw [length_rsi positive]
      split <;> omega
  · exact fun closes later ↦ rsi_begins (List.prefix_append closes later) period
  · intro n more
    split_ifs <;> omega

/-! ## Volume-weighted price -/

theorem Weighted.next?_eq_none_iff (w : Weighted) (c : Candle) :
    w.next? c = none ↔ c.priceTotal? = none := by
  rw [← c.typicalPrice?_eq_none_iff, Weighted.next?]
  cases c.typicalPrice? with
  | none => simp
  | some typical => simp

theorem vwapFrom?_eq_none_iff (w : Weighted) (candles : List Candle) :
    vwapFrom? w candles = none ↔ ∃ c ∈ candles, c.priceTotal? = none := by
  induction candles generalizing w with
  | nil => simp [vwapFrom?]
  | cons c candles ih =>
    rw [vwapFrom?, List.exists_mem_cons_iff, ← w.next?_eq_none_iff c]
    cases w.next? c with
    | none => exact iff_of_true rfl (.inl rfl)
    | some next =>
      rw [or_iff_right (Option.some_ne_none next), ← ih next, Option.bind_eq_bind, Option.bind_some]
      cases vwapFrom? next candles with
      | none => exact Iff.rfl
      | some prices => exact iff_of_false (Option.some_ne_none _) (Option.some_ne_none _)

theorem length_vwapFrom? {w : Weighted} {prices : List Float}
    (h : vwapFrom? w candles = some prices) : prices.length = candles.length := by
  induction candles generalizing w prices with
  | nil =>
    cases h
    rfl
  | cons c candles ih =>
    obtain ⟨next, -, h⟩ := Option.bind_eq_some_iff.1 h
    obtain ⟨rest, found, h⟩ := Option.bind_eq_some_iff.1 h
    cases h
    rw [List.length_cons, List.length_cons, ih found]

theorem vwap?_aligned :
    Aligned vwap? (fun candles ↦ ∃ c ∈ candles, c.priceTotal? = none) fun n ↦ n := by
  apply aligned_of_begins
  · exact vwapFrom?_eq_none_iff _
  · exact fun candles prices ↦ length_vwapFrom?
  · intro candles later prices prices' _ found found'
    obtain ⟨_, known, begins⟩ := vwapFrom?_begins found'
    cases known.symm.trans found
    exact begins
  · exact fun n more _ ↦ rfl

/-! ## Directional movement -/

theorem length_adx (candles : List Candle) (period : ℕ) :
    (adx candles period).length =
      if 1 ≤ period ∧ 2 * period + 1 ≤ candles.length then candles.length - 2 * period + 1
      else 0 := by
  split
  · rename_i enough
    obtain ⟨positive, long⟩ := enough
    rw [adx_of_le positive long, length_running, List.length_drop, length_indices (by omega)]
    omega
  · rename_i short
    rw [adx_of_short (by omega), List.length_nil]

theorem adx?_eq_none_iff (candles : List Candle) (period : ℕ) :
    adx? candles period = none ↔ limit64 ≤ 2 * period + 1 := by
  rw [adx?, ite_eq_left_iff, adxOf?_eq_some]
  simp

theorem adx_eq_of_adx? {series : List Float} (h : adx? candles period = some series) :
    adx candles period = series := by
  unfold adx? at h
  split at h
  · cases h
  · exact Option.some.inj ((adxOf?_eq_some candles period).symm.trans h)

theorem adx?_aligned (period : ℕ) :
    Aligned (adx? · period) (fun _ ↦ limit64 ≤ 2 * period + 1)
      fun n ↦ if 1 ≤ period ∧ 2 * period + 1 ≤ n then n - 2 * period + 1 else 0 := by
  apply aligned_of_begins
  · exact fun candles ↦ adx?_eq_none_iff candles period
  · intro candles series found
    rw [← adx_eq_of_adx? found, length_adx]
  · intro candles later series series' _ found found'
    rw [← adx_eq_of_adx? found, ← adx_eq_of_adx? found']
    exact adx_begins (List.prefix_append candles later) period
  · intro n more
    split_ifs <;> omega

/-! ## All indicators -/

/-- In the usual periods only prices whose sum is out of range leave a market without indicators. -/
theorem Indicators.ofCandles?_eq_none_iff (candles : List Candle) :
    ofCandles? candles = none ↔ ∃ c ∈ candles, c.priceTotal? = none := by
  have histogram := macdHistogram?_eq (by decide : 0 < 12) (by decide : 12 < 26)
    (candles.map (·.close.toFloat)) 9
  have directional : adx? candles 14 = some (Signal.adx candles 14) := adxOf?_eq_some candles 14
  rw [← vwapFrom?_eq_none_iff ⟨0.0, 0.0, 0.0⟩ candles]
  simp only [ofCandles?, rsi?_eq_some, histogram, ema?_eq_some, directional, Option.bind_eq_bind,
    Option.bind_some, vwap?]
  cases vwapFrom? ⟨0.0, 0.0, 0.0⟩ candles with
  | none => exact iff_of_true rfl rfl
  | some prices => exact iff_of_false (Option.some_ne_none _) (Option.some_ne_none _)

/-- Every indicator has as many values as bars and periods fix, and with each further bar one more,
so that its last value belongs to the last bar.  It has a series over all bars and for all periods
but for three faults: a fast average over no bars beside a slow one with values, a sum of prices
that is out of range, and a period whose double is. -/
theorem indicators_align_with_bars (period fast slow signal : ℕ) :
    Aligned (ema? · period) (fun _ ↦ False)
      (fun n ↦ if 1 ≤ period ∧ period ≤ n then n - period + 1 else 0) ∧
    Aligned (rsi? · period) (fun _ ↦ False)
      (fun n ↦ if 1 ≤ period ∧ period < n then n - period else 0) ∧
    Aligned (macdHistogram? · fast slow signal)
      (fun closes ↦ fast = 0 ∧ 1 ≤ slow ∧ slow ≤ closes.length)
      (fun n ↦ if 1 ≤ fast ∧ fast < slow ∧ 1 ≤ signal ∧ slow + signal - 1 ≤ n then
        n + 2 - slow - signal else 0) ∧
    Aligned vwap? (fun candles ↦ ∃ c ∈ candles, c.priceTotal? = none) (fun n ↦ n) ∧
    Aligned (adx? · period) (fun _ ↦ limit64 ≤ 2 * period + 1)
      (fun n ↦ if 1 ≤ period ∧ 2 * period + 1 ≤ n then n - 2 * period + 1 else 0) :=
  ⟨ema?_aligned period, rsi?_aligned period, macdHistogram?_aligned fast slow signal, vwap?_aligned,
    adx?_aligned period⟩

/-- One bar is enough for a slow average over one bar, while the fast one over none stays empty.
The double of half of all words of 64 bits is one word too many. -/
theorem indicators_can_fault :
    macdHistogram? [1.0] 0 1 1 = none ∧
      9223372036854775808 < limit64 ∧ adx? [bar 1] 9223372036854775808 = none :=
  ⟨(macdHistogram?_eq_none_iff [1.0] 0 1 1).2 (by decide), by decide,
    (adx?_eq_none_iff [bar 1] 9223372036854775808).2 (by decide)⟩

/-- Four closes have two values of the histogram, and two closes more have two values more. -/
theorem indicators_align_with_bars_fourCloses : ∃ histogram added,
    macdHistogram? [1.0, 2.0, 4.0, 3.0] 1 2 2 = some histogram ∧ histogram.length = 2 ∧
      macdHistogram? ([1.0, 2.0, 4.0, 3.0] ++ [8.0, 1.0]) 1 2 2 = some (histogram ++ added) ∧
      added.length = 2 := by
  have aligned := (indicators_align_with_bars 14 1 2 2).2.2.1
  have answered (closes : List Float) : ∃ histogram, macdHistogram? closes 1 2 2 = some histogram :=
    Option.ne_none_iff_exists'.1 fun fault ↦
      absurd ((aligned.eq_none_iff closes).1 fault).1 (by decide)
  obtain ⟨histogram, found⟩ := answered [1.0, 2.0, 4.0, 3.0]
  obtain ⟨histogram', found'⟩ := answered ([1.0, 2.0, 4.0, 3.0] ++ [8.0, 1.0])
  have two : histogram.length = 2 := aligned.length_eq found
  have started : histogram ≠ [] := by
    rintro rfl
    cases two
  obtain ⟨added, rfl, more⟩ := aligned.goesOn started found found'
  exact ⟨histogram, added, found, two, found', more⟩

end Signal

end TradingDesk
