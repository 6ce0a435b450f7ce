import TradingDesk.Allocation.Target

/-!
# Allocation Weights

A method gives every target a share of the capital that the reserve leaves.  Equal weights divide
it evenly.  Weights by the ratio of return to risk and by the inverse of risk are scaled to a total
of one, limited by each target's bounds, and scaled again.  Weights by edge are a tenth of the
ratio between one and 25 hundredths, scaled only when they exceed one in total.

Limiting needs ordered bounds; a target without them leaves no weights.
-/

namespace TradingDesk.Allocation

/-- A number, or a default in place of one that is not finite. -/
def finiteOr (x default : Float) : Float :=
  if x.isFinite then x else default

/-- The same weight for every target. -/
def equalWeights (count : Nat) : List Float :=
  List.replicate count (1.0 / Binary64.ofNat count)

/-- Weights scaled to one, limited by the bounds of the targets, and scaled to one again. -/
def clipAndScale? (targets : List Target) (raw : List Float) : Option (List Float) :=
  let total := Binary64.sum raw
  if targets.isEmpty || total ≤ 0.0 then some (equalWeights targets.length)
  else do
    let clipped ← (targets.zip raw).mapM fun (t, r) ↦
      Binary64.clamp? (r / total) t.minShare t.maxShare
    let clippedTotal := Binary64.sum clipped
    if clippedTotal ≤ 0.0 then some (equalWeights targets.length)
    else some (clipped.map (· / clippedTotal))

/-- Weights in proportion to the ratio of return to risk, which counts at least a tenth. -/
def sharpeWeights? (targets : List Target) : Option (List Float) :=
  clipAndScale? targets <|
    targets.map fun t ↦ Binary64.max (finiteOr t.figures.sharpeRatio 0.0) 0.1

/-- Weights in inverse proportion to risk, which counts at least a hundredth. -/
def parityWeights? (targets : List Target) : Option (List Float) :=
  clipAndScale? targets <|
    targets.map fun t ↦ 1.0 / Binary64.max (finiteOr t.figures.volatility 0.01) 0.01

/-- The weight of an edge. -/
def kellyWeight (t : Target) : Float :=
  let x := finiteOr t.figures.sharpeRatio 0.0 / 10.0
  (Binary64.clamp? x 0.01 0.25).getD x

/-- Weights by edge. -/
def kellyWeights (targets : List Target) : List Float :=
  let raw := targets.map kellyWeight
  let total := Binary64.sum raw
  if 1.0 < total then raw.map (· / total) else raw

/-- The weights of a method. -/
def weights? (method : Method) (targets : List Target) : Option (List Float) :=
  match method with
  | .equalWeight => some (equalWeights targets.length)
  | .sharpeWeighted => sharpeWeights? targets
  | .riskParity => parityWeights? targets
  | .kelly => some (kellyWeights targets)

@[simp]
theorem length_equalWeights (count : Nat) : (equalWeights count).length = count := by
  simp [equalWeights]

end TradingDesk.Allocation
