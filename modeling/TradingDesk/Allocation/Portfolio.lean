import TradingDesk.Allocation.Target

/-!
# Portfolio Figures

The expected return and risk of a portfolio follow from the figures of its targets and their
shares, as if the targets were uncorrelated.  The diversification of a portfolio is between zero
and one: six tenths of it measure how evenly the shares are spread and four tenths how little the
histories of returns move together.  Fewer than two targets are not diversified.
-/

namespace TradingDesk.Allocation

/-- The expected figures of a portfolio. -/
structure Expectation where
  return_ : Float
  volatility : Float
  sharpe : Float

/-- The fields of expected figures. -/
def Expectation.fields (e : Expectation) : List (String × Json) :=
  [("expected_return", .real e.return_), ("expected_volatility", .real e.volatility),
    ("expected_sharpe", .real e.sharpe)]

/-- The expected figures of targets with the given shares. -/
def expectation (targets : List Target) (shares : List Float) (periods : Float) : Expectation :=
  let pairs := targets.zip shares
  let mean := Binary64.sum (pairs.map fun (t, w) ↦ w * t.figures.averageReturn)
  let variance := Binary64.sum (pairs.map fun (t, w) ↦
    (w * t.figures.volatility) * (w * t.figures.volatility))
  let volatility := variance.sqrt
  { return_ := mean
    volatility := volatility
    sharpe := if 0.0 < volatility then mean / volatility * periods.sqrt else 0.0 }

/-- The correlations of each series with the later ones. -/
def pairCorrelations : List (List Float) → List Float
  | [] => []
  | xs :: rest => rest.map (Series.correlation xs) ++ pairCorrelations rest

/-- The mean correlation of the padded histories over all pairs. -/
def averageCorrelation (targets : List Target) : Float :=
  let correlations := pairCorrelations (targets.map Target.paddedReturns)
  if correlations.isEmpty then 0.0
  else correlations.foldl (· + ·) 0.0 / Binary64.ofNat correlations.length

/-- How far a portfolio is spread over uncorrelated targets. -/
def diversification (targets : List Target) (shares : List Float) : Float :=
  let total := Binary64.sum shares
  if targets.length < 2 || total ≤ 0.0 then 0.0
  else
    let squares := Binary64.sum (shares.map fun w ↦ (w / total) * (w / total))
    let least := 1.0 / Binary64.ofNat targets.length
    let raw := (squares - least) / (1.0 - least)
    let concentration := (Binary64.clamp? raw 0.0 1.0).getD raw
    let score := 0.6 * (1.0 - concentration) +
      0.4 * (1.0 - Binary64.max (averageCorrelation targets) 0.0)
    (Binary64.clamp? score 0.0 1.0).getD score

end TradingDesk.Allocation
