import TradingDesk.Binary64.Basic
import TradingDesk.Record.Reader

/-!
# Performance

The performance of a series of returns: ratios of mean to risk, scaled to a year, the share and
profit of winning periods, and the largest fall of the compounded value from its peak.  Returns
that are not finite are left out, and without any return all figures are zero.

Mean, deviation and covariance are computed in one pass over the series, term by term in its order.
The correlation of two series is zero when either does not vary or their lengths differ.
-/

namespace TradingDesk

/-! ## Statistics of a series -/

namespace Series

/-- The mean by successive correction; undefined without values. -/
def mean (xs : List Float) : Float :=
  if xs.isEmpty then Binary64.nan
  else
    (xs.foldl (fun (m, n) x ↦ (m + (x - m) / (n + 1.0), n + 1.0)) (0.0, 0.0)).1

/-- The sample variance by successive sums; undefined for fewer than two values. -/
def variance : List Float → Float
  | [] | [_] => Binary64.nan
  | first :: rest =>
    let step (state : Float × Float × Float) (x : Float) : Float × Float × Float :=
      let (sum, n, v) := state
      let n := n + 1.0
      let sum := sum + x
      let d := n * x - sum
      (sum, n, v + d * d / (n * (n - 1.0)))
    let (_, n, v) := rest.foldl step (first, 1.0, 0.0)
    v / (n - 1.0)

/-- The sample standard deviation. -/
def deviation (xs : List Float) : Float :=
  (variance xs).sqrt

/-- The sample covariance of two series. -/
def covariance (xs ys : List Float) : Float :=
  let step (state : Float × Float × Float × Float) (p : Float × Float) :
      Float × Float × Float × Float :=
    let (n, mx, my, c) := state
    let n := n + 1.0
    let before := my
    let mx := mx + (p.1 - mx) / n
    let my := my + (p.2 - my) / n
    (n, mx, my, c + (p.1 - mx) * (p.2 - before))
  let (n, _, _, c) := (xs.zip ys).foldl step (0.0, 0.0, 0.0, 0.0)
  if 1.0 < n then c / (n - 1.0) else Binary64.nan

/-- The correlation of two series of equal length. -/
def correlation (xs ys : List Float) : Float :=
  if xs.length ≠ ys.length ∨ xs.length < 2 then 0.0
  else
    let dx := deviation xs
    let dy := deviation ys
    if dx ≤ 0.0 || dy ≤ 0.0 || !dx.isFinite || !dy.isFinite then 0.0
    else
      let c := covariance xs ys / (dx * dy)
      if c.isFinite then (Binary64.clamp? c (-1.0) 1.0).getD c else 0.0

end Series

/-! ## Figures of a series of returns -/

/-- The figures of a series of returns. -/
structure Performance where
  observations : Nat
  sharpeRatio : Float
  sortinoRatio : Float
  profitFactor : Float
  winRate : Float
  averageReturn : Float
  volatility : Float
  maxDrawdown : Float

namespace Performance

/-- The figures without any return. -/
def zero : Performance := ⟨0, 0.0, 0.0, 0.0, 0.0, 0.0, 0.0, 0.0⟩

/-- The usual number of periods in a year. -/
def periodsPerYear : Float := 365.0

/-- The gains in relation to the losses; infinite when there are only gains. -/
def profitFactorOf (returns : List Float) : Float :=
  let gains := Binary64.sum (returns.filter fun r ↦ 0.0 < r)
  let losses := Binary64.sum ((returns.filter fun r ↦ !(0.0 < r)).map Float.abs)
  if 0.0 < losses then gains / losses
  else if 0.0 < gains then Binary64.infinity
  else 0.0

/-- The compounded value, its peak, and the largest fall from a peak. -/
structure Curve where
  equity : Float
  peak : Float
  fall : Float

/-- The curve after one more period. -/
def Curve.next (c : Curve) (r : Float) : Curve :=
  let equity := c.equity * (1.0 + r)
  let peak := if c.peak < equity then equity else c.peak
  let fall := if 0.0 < peak then Binary64.max c.fall ((peak - equity) / peak) else c.fall
  ⟨equity, peak, fall⟩

/-- The largest fall of the compounded value from its peak. -/
def maxDrawdownOf (returns : List Float) : Float :=
  (returns.foldl Curve.next ⟨1.0, 1.0, 0.0⟩).fall

/-- The deviation of the losses, counting gains as zero. -/
def downsideDeviation (returns : List Float) : Float :=
  let squares := returns.map fun r ↦ Binary64.min r 0.0 * Binary64.min r 0.0
  (Binary64.sum squares / Binary64.ofNat returns.length).sqrt

/-- The figures of a series of returns with the given number of periods in a year. -/
def ofReturns (returns : List Float) (periods : Float) : Performance :=
  let returns := returns.filter Float.isFinite
  if returns.isEmpty then zero
  else
    let mean := Series.mean returns
    let wins := (returns.filter fun r ↦ 0.0 < r).length
    let base : Performance :=
      { zero with
        observations := returns.length
        averageReturn := mean
        winRate := Binary64.ofNat wins / Binary64.ofNat returns.length
        profitFactor := profitFactorOf returns
        maxDrawdown := maxDrawdownOf returns }
    if returns.length < 2 then base
    else
      let deviation := Series.deviation returns
      let downside := downsideDeviation returns
      let scale := periods.sqrt
      { base with
        volatility := deviation
        sharpeRatio := if 0.0 < deviation then mean / deviation * scale else 0.0
        sortinoRatio := if 0.0 < downside then mean / downside * scale else 0.0 }

/-- Whether there are enough observations to rely on the figures. -/
def isMeaningful (p : Performance) (minimum : Nat) : Bool :=
  decide (minimum ≤ p.observations)

/-- The figures as fields. -/
def fields (p : Performance) : List (String × Json) :=
  [("observations", .nat p.observations), ("sharpe_ratio", .real p.sharpeRatio),
    ("sortino_ratio", .real p.sortinoRatio), ("profit_factor", .real p.profitFactor),
    ("win_rate", .real p.winRate), ("avg_return", .real p.averageReturn),
    ("volatility", .real p.volatility), ("max_drawdown", .real p.maxDrawdown)]

/-- The figures as data. -/
def toJson (p : Performance) : Json :=
  .obj p.fields

/-- Figures and the time of their calculation. -/
structure Report where
  calculatedAt : Instant
  figures : Performance

/-- Reads a report. -/
def Report.ofJson? : Json → Option Report :=
  let float? := Record.Typing.float? .strict
  Record.read? do
    let calculatedAt ← Record.required ["calculated_at"] Record.instant?
    let observations ← Record.required ["observations"] (Record.Typing.nat? .strict limit32)
    let sharpeRatio ← Record.required ["sharpe_ratio"] float?
    let sortinoRatio ← Record.required ["sortino_ratio"] float?
    let profitFactor ← Record.required ["profit_factor"] float?
    let winRate ← Record.required ["win_rate"] float?
    let averageReturn ← Record.required ["avg_return"] float?
    let volatility ← Record.required ["volatility"] float?
    let maxDrawdown ← Record.required ["max_drawdown"] float?
    pure ⟨calculatedAt, observations, sharpeRatio, sortinoRatio, profitFactor, winRate,
      averageReturn, volatility, maxDrawdown⟩

/-- A report as data. -/
def Report.toJson (r : Report) : Json :=
  .obj (("calculated_at", .str r.calculatedAt.render) :: r.figures.fields)

end Performance

end TradingDesk
