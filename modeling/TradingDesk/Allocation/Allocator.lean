import TradingDesk.Allocation.Plan
import TradingDesk.Allocation.Portfolio
import TradingDesk.Allocation.Weights
import TradingDesk.Decimal.Binary

/-!
# Allocator

The allocator holds the targets, in the order of their names, and the history of plans.  A plan is
made over the active targets, or those of one type: the reserve is cut to cents, every target gets
its weight of the rest, cut to cents, and the plan is added to the history.  Making a plan moves no
capital; applying one sets the capital of its targets, all of which have to exist.

The moves of a plan lead from the plan before it, or from the capital held when there is none.
Targets that the previous plan funded and this one drops are drained.  Moves up to a threshold, a
share of the total capital, are left out.
-/

namespace TradingDesk.Allocation

/-- Why an operation on targets failed. -/
inductive Error where
  | noActiveTargets
  | unknownTarget (id : String)
  | invalidBounds (id : String) (min max : Float)

namespace Error

/-- The class of a failure. -/
def kind : Error → String
  | noActiveTargets => "no_active_targets"
  | unknownTarget _ => "unknown_target"
  | invalidBounds _ _ _ => "invalid_bounds"

/-- The text of a failure. -/
def message : Error → String
  | noActiveTargets => "No active allocation targets"
  | unknownTarget id => "Unknown allocation target: " ++ id
  | invalidBounds id min max =>
    "Invalid allocation bounds for " ++ id ++ ": min " ++ Binary64.plainText min ++ ", max " ++
      Binary64.plainText max

/-- A failure as data. -/
def toJson (e : Error) : Json :=
  .failure e.kind e.message

end Error

/-- Settings of allocation. -/
structure Settings where
  totalCapital : Decimal
  reserveShare : Float
  rebalanceThreshold : Float
  defaultMethod : Method
  periodsPerYear : Float

namespace Settings

/-- The usual settings. -/
def standard : Settings :=
  { totalCapital := Decimal.const 10000 0
    reserveShare := 0.10
    rebalanceThreshold := 0.05
    defaultMethod := .sharpeWeighted
    periodsPerYear := Performance.periodsPerYear }

/-- Reads settings; absent fields take their usual values. -/
def ofJson? (t : Record.Typing) : Json → Option Settings :=
  Record.read? do
    let total ← Record.withDefault ["total_capital"] Record.decimal? standard.totalCapital
    let reserve ← Record.withDefault ["reserve_pct"] t.float? standard.reserveShare
    let threshold ←
      Record.withDefault ["rebalance_threshold"] t.float? standard.rebalanceThreshold
    let method ←
      Record.withDefault ["default_method"] (t.choice? Method.choices) standard.defaultMethod
    let periods ← Record.withDefault ["periods_per_year"] t.float? standard.periodsPerYear
    pure ⟨total, reserve, threshold, method, periods⟩

/-- The settings as data. -/
def toJson (s : Settings) : Json :=
  .obj [("total_capital", .str s.totalCapital.render), ("reserve_pct", .real s.reserveShare),
    ("rebalance_threshold", .real s.rebalanceThreshold),
    ("default_method", .str s.defaultMethod.name), ("periods_per_year", .real s.periodsPerYear)]

end Settings

/-- Targets and the plans made over them. -/
structure Allocator where
  settings : Settings
  targets : List Target
  history : List Plan

namespace Allocator

/-- An allocator without targets. -/
def new (settings : Settings) : Allocator :=
  ⟨settings, [], []⟩

/-- The target of a name. -/
def target? (a : Allocator) (id : String) : Option Target :=
  a.targets.find? (·.id == id)

/-- The targets with one more, in place of an earlier one of its name. -/
def insertTarget (t : Target) (targets : List Target) : List Target :=
  targets.filter (fun u ↦ u.id < t.id) ++ t :: targets.filter (fun u ↦ t.id < u.id)

/-- Whether bounds lie between zero and one and are ordered. -/
def validBounds (min max : Float) : Bool :=
  0.0 ≤ min && min ≤ 1.0 && 0.0 ≤ max && max ≤ 1.0 && !(max < min)

/-- Adds a target, keeping the latest window of its history. -/
def add (a : Allocator) (t : Target) : Except Error Allocator :=
  if validBounds t.minShare t.maxShare then
    let t := { t with returns := [] }.pushReturns t.returns
    .ok { a with targets := insertTarget t a.targets }
  else
    .error (.invalidBounds t.id t.minShare t.maxShare)

/-- Removes a target and gives it back, when it exists. -/
def remove (a : Allocator) (id : String) : Allocator × Option Target :=
  ({ a with targets := a.targets.filter (·.id != id) }, a.target? id)

/-- Changes one target. -/
def modify (a : Allocator) (id : String) (f : Target → Target) : Except Error Allocator :=
  match a.target? id with
  | none => .error (.unknownTarget id)
  | some _ => .ok { a with targets := a.targets.map fun t ↦ if t.id == id then f t else t }

/-- Includes a target in plans or leaves it out. -/
def setActive (a : Allocator) (id : String) (active : Bool) : Except Error Allocator :=
  a.modify id fun t ↦ { t with active := active }

/-- Sets the capital to allocate. -/
def setTotalCapital (a : Allocator) (total : Decimal) : Allocator :=
  { a with settings := { a.settings with totalCapital := total } }

/-- Adds returns to a target's history and reports on the window at `now`. -/
def updatePerformance (a : Allocator) (id : String) (returns : List Float) (now : Instant) :
    Except Error Allocator :=
  a.modify id fun t ↦
    let t := t.pushReturns returns
    { t with report := ⟨now, Performance.ofReturns t.returns a.settings.periodsPerYear⟩ }

/-! ## Plans -/

/-- The decimal of a number, or zero when it has none. -/
def toDecimal (x : Float) : Decimal :=
  (Decimal.ofFloat? x).getD Decimal.zero

/-- An amount cut to cents. -/
def cents (d : Decimal) : Decimal :=
  d.truncate 2

/-- The share of an amount in a total; zero without a total. -/
def shareOf? (part total : Decimal) : Option Float :=
  if total ≤ Decimal.zero then some 0.0
  else (Decimal.div? part total).map Decimal.toFloat

/-- Whether a target is of the type asked for, if one is. -/
def hasType (filter : Option TargetType) (t : Target) : Bool :=
  match filter with
  | none => true
  | some type => t.type == type

/-- The targets that a plan is made over. -/
def selected (a : Allocator) (filter : Option TargetType) : List Target :=
  a.targets.filter fun t ↦ t.active && hasType filter t

/-- The capital to allocate, never below zero. -/
def budget (a : Allocator) : Decimal :=
  a.settings.totalCapital.max Decimal.zero

/-- The capital held back. -/
def reserve? (a : Allocator) : Option Decimal := do
  let share ← Binary64.clamp? a.settings.reserveShare 0.0 1.0
  (Decimal.mul? a.budget (toDecimal share)).map cents

/-- The amount of each weight. -/
def amounts? (available : Decimal) (weights : List Float) : Option (List Decimal) :=
  weights.mapM fun w ↦ (Decimal.mul? available (toDecimal w)).map cents

/-- The names with one more in its place by order. -/
def insertName (name : String) : List String → List String
  | [] => [name]
  | other :: rest =>
    if name ≤ other then name :: other :: rest else other :: insertName name rest

/-- Names in order. -/
def inOrder (names : List String) : List String :=
  names.foldr insertName []

/-- The names that a plan can move capital for: those it funds, and those that the previous plan
funded and the filter covers. -/
def movable (a : Allocator) (allocations : List (String × Decimal)) (filter : Option TargetType) :
    List String :=
  let funded := allocations.map (·.1)
  let dropped := match a.history.getLast? with
    | none => []
    | some plan => (plan.allocations.map (·.1)).filter fun id ↦
        !funded.contains id && ((a.target? id).map (hasType filter)).getD false
  inOrder (funded ++ dropped)

/-- The capital that a move starts from. -/
def startCapital (a : Allocator) (id : String) : Decimal :=
  match a.history.getLast? with
  | some plan => plan.capitalOf id
  | none => ((a.target? id).map (·.currentCapital)).getD Decimal.zero

/-- The move of one target, unless it is within the threshold. -/
def move? (a : Allocator) (allocations : List (String × Decimal)) (threshold : Decimal)
    (id : String) : Option (Option Move) := do
  let start := a.startCapital id
  let goal := (allocations.lookup id).getD Decimal.zero
  let delta ← Decimal.sub? goal start
  if delta.abs ≤ threshold then
    return none
  let direction : Direction := if Decimal.zero < delta then .increase else .decrease
  return some ⟨id, start, goal, delta, direction⟩

/-- The moves of a plan in the order of names. -/
def moves? (a : Allocator) (allocations : List (String × Decimal)) (filter : Option TargetType) :
    Option (List Move) := do
  let threshold ←
    Decimal.mul? a.budget (toDecimal (Binary64.max a.settings.rebalanceThreshold 0.0))
  let moves ← (a.movable allocations filter).mapM (a.move? allocations threshold)
  some (moves.filterMap id)

/-- The plan over the given targets. -/
def planOver? (a : Allocator) (targets : List Target) (method : Method)
    (filter : Option TargetType) (now : Instant) : Option Plan := do
  let total := a.budget
  let reserve ← a.reserve?
  let available ← Decimal.sub? total reserve
  let weights ← weights? method targets
  let amounts ← amounts? available weights
  let shares ← amounts.mapM (shareOf? · total)
  let names := targets.map (·.id)
  let expected := expectation targets shares a.settings.periodsPerYear
  let allocations := names.zip amounts
  let moves ← a.moves? allocations filter
  some
    { createdAt := now
      method := method
      totalCapital := total
      reserveCapital := reserve
      allocations := allocations
      shares := names.zip shares
      expectedReturn := expected.return_
      expectedVolatility := expected.volatility
      expectedSharpe := expected.sharpe
      diversification := diversification targets shares
      moves := moves }

/-- Notes the shares of a plan with its targets. -/
def noteShares (shares : List (String × Float)) (targets : List Target) : List Target :=
  targets.map fun t ↦
    match shares.lookup t.id with
    | some share => { t with plannedShare := share }
    | none => t

/-- Makes a plan and adds it to the history. -/
def makePlan? (a : Allocator) (method : Method) (filter : Option TargetType) (now : Instant) :
    Option (Except Error (Allocator × Plan)) :=
  let targets := a.selected filter
  if targets.isEmpty then some (.error .noActiveTargets)
  else do
    let plan ← a.planOver? targets method filter now
    some <| .ok
      ({ a with targets := noteShares plan.shares a.targets, history := a.history ++ [plan] }, plan)

/-- Sets the capital of a plan's targets. -/
def applyPlan (a : Allocator) (plan : Plan) : Except Error Allocator :=
  match plan.allocations.find? fun (id, _) ↦ (a.target? id).isNone with
  | some (id, _) => .error (.unknownTarget id)
  | none =>
    .ok { a with
      targets := a.targets.map fun t ↦
        match plan.allocations.lookup t.id with
        | some capital => { t with currentCapital := capital }
        | none => t }

end Allocator

end TradingDesk.Allocation
