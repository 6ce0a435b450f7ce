import TradingDesk.Performance
import TradingDesk.Text.Lowercase

/-!
# Allocation Targets

A target is a strategy, a broker or an asset that competes for capital.  It carries its recent
returns, the performance computed from them, the capital it holds, its planned share, and bounds on
its weight.  The history of returns is a window of the most recent hundred, oldest first; padded to
its full length it begins with zeros.
-/

namespace TradingDesk.Allocation

/-- What capital is allocated to. -/
inductive TargetType where
  | strategy
  | broker
  | asset
deriving DecidableEq, Repr

/-- The name of a type of target. -/
def TargetType.name : TargetType → String
  | strategy => "strategy"
  | broker => "broker"
  | asset => "asset"

/-- Reads a type of target from its exact name. -/
def TargetType.ofJson? : Json → Option TargetType :=
  Record.Typing.choice? .strict
    [("strategy", strategy), ("broker", broker), ("asset", asset)]

/-- How weights are chosen. -/
inductive Method where
  | equalWeight
  | sharpeWeighted
  | riskParity
  | kelly
deriving DecidableEq, Repr

namespace Method

/-- The name of a method as data. -/
def name : Method → String
  | equalWeight => "equal_weight"
  | sharpeWeighted => "sharpe_weighted"
  | riskParity => "risk_parity"
  | kelly => "kelly"

/-- The name of a method in a heading. -/
def label : Method → String
  | equalWeight => "EqualWeight"
  | sharpeWeighted => "SharpeWeighted"
  | riskParity => "RiskParity"
  | kelly => "Kelly"

/-- All methods with their names. -/
def choices : List (String × Method) :=
  [("equal_weight", equalWeight), ("sharpe_weighted", sharpeWeighted),
    ("risk_parity", riskParity), ("kelly", kelly)]

/-- Reads a method from one of its names in any case. -/
def parse? (s : String) : Option Method :=
  let word := Text.lowercase s
  if word ∈ ["equal", "equal_weight"] then some equalWeight
  else if word ∈ ["sharpe", "sharpe_weighted"] then some sharpeWeighted
  else if word ∈ ["risk_parity", "riskparity"] then some riskParity
  else if word = "kelly" then some kelly
  else none

end Method

/-- The number of returns that a target keeps. -/
def historyLength : Nat := 100

/-- A competitor for capital. -/
structure Target where
  id : String
  type : TargetType
  report : Performance.Report
  currentCapital : Decimal
  plannedShare : Float
  minShare : Float
  maxShare : Float
  active : Bool
  returns : List Float

namespace Target

/-- The figures of the latest report. -/
def figures (t : Target) : Performance :=
  t.report.figures

/-- The last entries of a list, at most `n`. -/
def lastEntries {α : Type} (n : Nat) (xs : List α) : List α :=
  xs.drop (xs.length - n)

/-- The history after one more return, without its oldest entry when it was full. -/
def pushReturn (history : List Float) (r : Float) : List Float :=
  (if history.length = historyLength then history.drop 1 else history) ++ [r]

/-- The target with further returns at the end of its history. -/
def pushReturns (t : Target) (rs : List Float) : Target :=
  { t with returns := rs.foldl pushReturn t.returns }

/-- The history as a window of full length, with zeros before the first return. -/
def paddedReturns (t : Target) : List Float :=
  List.replicate (historyLength - t.returns.length) 0.0 ++ lastEntries historyLength t.returns

/-- The usual lower bound on a weight. -/
def usualMin : Float := 0.05

/-- The usual upper bound on a weight. -/
def usualMax : Float := 0.40

/-- Reads a target; a target without a report is taken as reported at `now` without returns. -/
def ofJson? (now : Instant) : Json → Option Target :=
  let float? := Record.Typing.float? .strict
  Record.read? do
    let id ← Record.required ["id"] (Record.Typing.text? .strict)
    let type ← Record.required ["type"] TargetType.ofJson?
    let report ←
      Record.withDefault ["metrics"] Performance.Report.ofJson? ⟨now, Performance.zero⟩
    let capital ← Record.withDefault ["current_capital"] Record.decimal? Decimal.zero
    let planned ← Record.withDefault ["target_allocation_pct"] float? 0.0
    let minShare ← Record.withDefault ["min_allocation_pct"] float? usualMin
    let maxShare ← Record.withDefault ["max_allocation_pct"] float? usualMax
    let active ← Record.withDefault ["active"] (Record.Typing.flag? .strict) true
    let returns ← Record.withDefault ["returns_history"] (Record.Typing.list? float?) []
    pure ⟨id, type, report, capital, planned, minShare, maxShare, active, returns⟩

/-- A target as data. -/
def toJson (t : Target) : Json :=
  .obj [("id", .str t.id), ("type", .str t.type.name), ("metrics", t.report.toJson),
    ("current_capital", .str t.currentCapital.render),
    ("target_allocation_pct", .real t.plannedShare), ("min_allocation_pct", .real t.minShare),
    ("max_allocation_pct", .real t.maxShare), ("active", .bool t.active),
    ("returns_history", Json.ofList Json.real t.returns)]

theorem length_paddedReturns (t : Target) : t.paddedReturns.length = historyLength := by
  simp only [paddedReturns, lastEntries, List.length_append, List.length_replicate,
    List.length_drop]
  omega

end Target

end TradingDesk.Allocation
