import TradingDesk.Decimal.Arithmetic
import TradingDesk.Position

/-!
# Profit Ladder

A ladder takes profit in steps.  Each level names a return from which on it fires, and the share of
what is then still open that it sells.  A level fires once per position, and only while the return
stays positive after the fees of entry and exit.

What a level sells is cut so that the position stays open, so a ladder alone never closes one.
-/

namespace TradingDesk.Execution

/-- A return and the share of the open remainder that is sold from it on. -/
structure ProfitLevel where
  threshold : Decimal
  exitFraction : Decimal
deriving DecidableEq

namespace ProfitLevel

/-- The fraction of the quantity at entry that the level sells while `remaining` is open. -/
def tranche? (level : ProfitLevel) (remaining : Decimal) : Option Decimal := do
  let share ← Decimal.mul? level.exitFraction remaining
  let room ← Decimal.sub? remaining Position.closedThreshold
  some ((share.min room).max Decimal.zero)

/-- The reason under which the level's exits are booked. -/
def reason? (level : ProfitLevel) : Option String := do
  let percent ← Decimal.mul? level.threshold (Decimal.const 100 0)
  some ("tp_exit_" ++ percent.normalize.render ++ "pct")

end ProfitLevel

/-- The levels of a ladder and the fees of entry and exit together. -/
structure Ladder where
  levels : List ProfitLevel
  roundTripFee : Decimal
deriving DecidableEq

/-- A level that fires. -/
structure LadderHit where
  index : Nat
  level : ProfitLevel
  netReturn : Decimal
deriving DecidableEq

namespace Ladder

/-- The usual ladder. -/
def standard : Ladder :=
  { levels :=
      [⟨Decimal.const 20 3, Decimal.const 10 2⟩, ⟨Decimal.const 25 3, Decimal.const 15 2⟩,
        ⟨Decimal.const 30 3, Decimal.const 25 2⟩, ⟨Decimal.const 40 3, Decimal.const 50 2⟩]
    roundTripFee := Decimal.const 14 3 }

/-- Whether a level of a position is still to fire; there has to be a flag for it. -/
def isPending (hits : List Bool) (index : Nat) : Bool :=
  hits[index]? == some false

/-- The levels that fire at a price, in their order. -/
def pendingHits? (l : Ladder) (p : Position) (price : Decimal) : Option (List LadderHit) := do
  let gross ← p.grossReturn? price
  let net ← Decimal.sub? gross l.roundTripFee
  if net ≤ Decimal.zero then
    some []
  else
    let reached := l.levels.zipIdx.filter fun (level, index) ↦
      decide (level.threshold ≤ gross) && isPending p.ladderHits index
    some (reached.map fun (level, index) ↦ ⟨index, level, net⟩)

/-! ## Text -/

/-- Reads a level. -/
def levelOfJson? : Json → Option ProfitLevel :=
  Record.read? do
    let threshold ← Record.required ["threshold"] Record.decimal?
    let exitFraction ← Record.required ["exit_fraction"] Record.decimal?
    pure ⟨threshold, exitFraction⟩

/-- A level as data. -/
def levelToJson (level : ProfitLevel) : Json :=
  .obj [("threshold", .str level.threshold.render),
    ("exit_fraction", .str level.exitFraction.render)]

/-- Reads a ladder; absent fields take their usual values. -/
def ofJson? : Json → Option Ladder :=
  Record.read? do
    let levels ←
      Record.withDefault ["levels"] (Record.Typing.list? levelOfJson?) standard.levels
    let fee ← Record.withDefault ["round_trip_fee"] Record.decimal? standard.roundTripFee
    pure ⟨levels, fee⟩

/-- A ladder as data. -/
def toJson (l : Ladder) : Json :=
  .obj [("levels", Json.ofList levelToJson l.levels),
    ("round_trip_fee", .str l.roundTripFee.render)]

/-- A level that fires as data, with the reason for its exit. -/
def hitJson? (hit : LadderHit) : Option Json := do
  let reason ← hit.level.reason?
  some <| .obj
    [("index", .nat hit.index), ("reason", .str reason),
      ("net_return", .str hit.netReturn.render)]

end Ladder

end TradingDesk.Execution
