import TradingDesk.Record.Typing
import TradingDesk.Text.Lowercase

/-!
# Order Sides

An order buys or sells.  A position opened on one side is closed on the other, and going to the
opposite side twice leads back.  People also name the sides after the positions they open, long and
short, and in any case.
-/

namespace TradingDesk

/-- The direction of an order. -/
inductive Side where
  | buy
  | sell
deriving DecidableEq, Repr, Inhabited

namespace Side

/-- The side that closes what this side opens. -/
def opposite : Side → Side
  | buy => sell
  | sell => buy

/-- The name of a side. -/
def name : Side → String
  | buy => "buy"
  | sell => "sell"

/-- Reads a side from one of its names in any case. -/
def parse? (s : String) : Option Side :=
  let word := Text.lowercase s
  if word = "buy" ∨ word = "long" then some buy
  else if word = "sell" ∨ word = "short" then some sell
  else none

/-- Reads a side from its exact name. -/
def ofJson? : Json → Option Side :=
  Record.Typing.choice? .strict [("buy", buy), ("sell", sell)]

/-- The name of a side as data. -/
def toJson (s : Side) : Json :=
  .str s.name

@[simp]
theorem opposite_opposite (s : Side) : s.opposite.opposite = s := by
  cases s <;> rfl

end Side

end TradingDesk
