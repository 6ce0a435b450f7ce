import TradingDesk.Performance
import TradingDesk.Signal.Scorer

/-!
# Position Sizes

The size of an entry is a share of the balance, scaled by the score of the signal or by the edge of
past results, and then brought within the limits: at least the smallest trade, at most the largest,
and at most what the limit on all open positions leaves.  A size that the limits push below the
smallest trade is no entry at all, and the result is rounded to cents.

The edge follows from the share of wins and the ratio of gains to losses, and shrinks with the
largest fall so far.  Before there is any history, half of the base size is taken.
-/

namespace TradingDesk

namespace Sizing

/-- How the base size is scaled. -/
inductive Method where
  | fixedFraction
  | scoreScaled
  | kelly
deriving DecidableEq, Repr

/-- The method of a name in any case; every other name means no scaling. -/
def Method.ofName (s : String) : Method :=
  let word := Text.lowercase s
  if word = "kelly" then .kelly
  else if word = "score" ∨ word = "score_scaled" then .scoreScaled
  else .fixedFraction

/-- Settings of sizes. -/
structure Settings where
  method : String
  positionShare : Decimal
  kellyFraction : Decimal
  minTrade : Decimal
  maxTrade : Decimal
  maxAllocation : Decimal
deriving DecidableEq

namespace Settings

/-- The usual settings. -/
def standard : Settings :=
  { method := "fixed"
    positionShare := Decimal.const 5 2
    kellyFraction := Decimal.const 25 2
    minTrade := Decimal.const 10 0
    maxTrade := Decimal.const 1000 0
    maxAllocation := Decimal.const 5 1 }

/-- Reads settings; absent fields take their usual values. -/
def ofJson? (t : Record.Typing) : Json → Option Settings :=
  Record.read? do
    let method ← Record.withDefault ["sizing_method"] t.text? standard.method
    let share ← Record.withDefault ["position_pct"] Record.decimal? standard.positionShare
    let kelly ← Record.withDefault ["kelly_fraction"] Record.decimal? standard.kellyFraction
    let minTrade ← Record.withDefault ["min_trade_size"] Record.decimal? standard.minTrade
    let maxTrade ← Record.withDefault ["max_trade_size"] Record.decimal? standard.maxTrade
    let allocation ←
      Record.withDefault ["max_portfolio_allocation"] Record.decimal? standard.maxAllocation
    pure ⟨method, share, kelly, minTrade, maxTrade, allocation⟩

/-- The settings as data. -/
def toJson (s : Settings) : Json :=
  .obj [("sizing_method", .str s.method), ("position_pct", .str s.positionShare.render),
    ("kelly_fraction", .str s.kellyFraction.render), ("min_trade_size", .str s.minTrade.render),
    ("max_trade_size", .str s.maxTrade.render),
    ("max_portfolio_allocation", .str s.maxAllocation.render)]

end Settings

/-- The share of the balance that past results justify, before the drawdown penalty. -/
def edge (p : Performance) : Float :=
  if p.profitFactor.isFinite then p.winRate * (1.0 - 1.0 / p.profitFactor) else p.winRate

/-- The size that past results justify. -/
def kellySize? (s : Settings) (base balance : Decimal) (history : Option Performance) :
    Option Decimal :=
  match history with
  | none => Decimal.mul? base (Decimal.const 5 1)
  | some p =>
    if p.profitFactor ≤ 1.0 || p.winRate ≤ 0.0 then some Decimal.zero
    else
      let adjusted := edge p * s.kellyFraction.toFloat
      let penalty := 1.0 - Binary64.min p.maxDrawdown 0.9
      Decimal.mul? balance ((Decimal.ofFloat? (adjusted * penalty)).getD Decimal.zero)

/-- A size within the limits, or zero. -/
def constrain? (s : Settings) (size balance exposure : Decimal) : Option Decimal := do
  let bounded := (size.max s.minTrade).min s.maxTrade
  let total ← Decimal.mul? balance s.maxAllocation
  let capacity ← Decimal.sub? total exposure
  if capacity ≤ Decimal.zero then
    return Decimal.zero
  let final := bounded.min capacity
  return if final < s.minTrade then Decimal.zero else final.round 2

/-- The size before the limits. -/
def unconstrained? (s : Settings) (balance : Decimal) (score : Nat)
    (history : Option Performance) : Option Decimal := do
  let base ← Decimal.mul? balance s.positionShare
  match Method.ofName s.method with
  | .fixedFraction => some base
  | .scoreScaled => do
    let points ← Decimal.ofInt? (Min.min score Signal.maxScore : Nat)
    Decimal.div? (← Decimal.mul? base points) (Decimal.const 5 0)
  | .kelly => kellySize? s base balance history

/-- The size of an entry, or zero for none, given the balance, the score of the signal, past
results and the value of all open positions. -/
def size? (s : Settings) (balance : Decimal) (score : Nat) (history : Option Performance)
    (exposure : Decimal) : Option Decimal := do
  if balance ≤ Decimal.zero then
    return Decimal.zero
  let sized ← unconstrained? s balance score history
  if sized ≤ Decimal.zero then
    return Decimal.zero
  constrain? s sized balance exposure

end Sizing

end TradingDesk
