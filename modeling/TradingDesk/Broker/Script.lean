import TradingDesk.Broker.Basic

/-!
# Scripted Broker

A scripted broker answers orders from a list that was laid down beforehand, whatever the orders are,
and fails when the list is used up.  It serves to rehearse how the desk treats the answers of a
broker.
-/

namespace TradingDesk.Broker.Script

/-- The answers that are still to come. -/
abbrev State := List (Except String Order.Response)

/-- The next answer. -/
def answer : State → Except String Order.Response × State
  | [] => (.error "no scripted response", [])
  | next :: rest => (next, rest)

/-- The scripted broker that leaves out some symbols. -/
def broker (unsupported : List String) : Broker State where
  name := "scripted"
  supports symbol := !unsupported.contains symbol
  place answers _ := some (answer answers)
  balance _ := Decimal.const 10000 0

end TradingDesk.Broker.Script
