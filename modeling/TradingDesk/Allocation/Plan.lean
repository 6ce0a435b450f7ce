import TradingDesk.Allocation.Target
import TradingDesk.Json.Reader
import TradingDesk.Json.Writer

/-!
# Allocation Plans

A plan is a snapshot: how much capital each target gets, in amounts and in shares of the total, the
reserve, the figures expected of the portfolio, and the moves of capital against the plan before.
Amounts and shares are listed in the order of the targets' names.
-/

namespace TradingDesk.Allocation

/-- The direction of a move of capital. -/
inductive Direction where
  | increase
  | decrease
deriving DecidableEq, Repr

namespace Direction

/-- The name of a direction as data. -/
def name : Direction → String
  | increase => "increase"
  | decrease => "decrease"

/-- The name of a direction in a report. -/
def label : Direction → String
  | increase => "Increase"
  | decrease => "Decrease"

/-- Reads a direction from its exact name. -/
def ofJson? : Json → Option Direction :=
  Record.Typing.choice? .strict [("increase", increase), ("decrease", decrease)]

end Direction

/-- A move of capital to or from a target. -/
structure Move where
  target : String
  fromCapital : Decimal
  toCapital : Decimal
  delta : Decimal
  direction : Direction
deriving DecidableEq

/-- An allocation of capital to targets. -/
structure Plan where
  createdAt : Instant
  method : Method
  totalCapital : Decimal
  reserveCapital : Decimal
  allocations : List (String × Decimal)
  shares : List (String × Float)
  expectedReturn : Float
  expectedVolatility : Float
  expectedSharpe : Float
  diversification : Float
  moves : List Move

namespace Plan

/-- The capital that the plan gives to a target. -/
def capitalOf (p : Plan) (target : String) : Decimal :=
  (p.allocations.lookup target).getD Decimal.zero

/-- The capital of all targets together. -/
def allocatedCapital? (p : Plan) : Option Decimal :=
  Decimal.sum? (p.allocations.map (·.2))

/-- The shares of all targets together. -/
def totalShare (p : Plan) : Float :=
  Binary64.sum (p.shares.map (·.2))

end Plan

/-! ## Text -/

/-- Reads a move. -/
def Move.ofJson? : Json → Option Move :=
  Record.read? do
    let target ← Record.required ["target_id"] (Record.Typing.text? .strict)
    let fromCapital ← Record.required ["from_capital"] Record.decimal?
    let toCapital ← Record.required ["to_capital"] Record.decimal?
    let delta ← Record.required ["delta"] Record.decimal?
    let direction ← Record.required ["direction"] Direction.ofJson?
    pure ⟨target, fromCapital, toCapital, delta, direction⟩

/-- A move as data. -/
def Move.toJson (m : Move) : Json :=
  .obj [("target_id", .str m.target), ("from_capital", .str m.fromCapital.render),
    ("to_capital", .str m.toCapital.render), ("delta", .str m.delta.render),
    ("direction", .str m.direction.name)]

/-- Reads a plan. -/
def Plan.ofJson? : Json → Option Plan :=
  let float? := Record.Typing.float? .strict
  Record.read? do
    let createdAt ← Record.required ["created_at"] Record.instant?
    let method ← Record.required ["method"] (Record.Typing.choice? .strict Method.choices)
    let total ← Record.required ["total_capital"] Record.decimal?
    let reserve ← Record.required ["reserve_capital"] Record.decimal?
    let allocations ← Record.required ["allocations"] (Record.mapOf? Record.decimal?)
    let shares ← Record.required ["allocation_pcts"] (Record.mapOf? float?)
    let expectedReturn ← Record.required ["expected_return"] float?
    let expectedVolatility ← Record.required ["expected_volatility"] float?
    let expectedSharpe ← Record.required ["expected_sharpe"] float?
    let diversification ← Record.required ["diversification_score"] float?
    let moves ← Record.required ["rebalancing_actions"] (Record.Typing.list? Move.ofJson?)
    pure ⟨createdAt, method, total, reserve, allocations, shares, expectedReturn,
      expectedVolatility, expectedSharpe, diversification, moves⟩

/-- A plan as data. -/
def Plan.toJson (p : Plan) : Json :=
  .obj [("created_at", .str p.createdAt.render), ("method", .str p.method.name),
    ("total_capital", .str p.totalCapital.render),
    ("reserve_capital", .str p.reserveCapital.render),
    ("allocations", .obj (p.allocations.map fun (id, capital) ↦ (id, .str capital.render))),
    ("allocation_pcts", .obj (p.shares.map fun (id, share) ↦ (id, .real share))),
    ("expected_return", .real p.expectedReturn),
    ("expected_volatility", .real p.expectedVolatility),
    ("expected_sharpe", .real p.expectedSharpe),
    ("diversification_score", .real p.diversification),
    ("rebalancing_actions", Json.ofList Move.toJson p.moves)]

/-- The text under which a plan is stored. -/
def Plan.storedText (p : Plan) : String :=
  p.toJson.compact

/-- Reads a stored plan. -/
def Plan.parse? (text : String) : Option Plan :=
  (Json.parse? text).bind Plan.ofJson?

end TradingDesk.Allocation
