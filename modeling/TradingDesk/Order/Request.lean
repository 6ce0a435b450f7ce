import TradingDesk.Decimal.Text
import TradingDesk.Order.Side

/-!
# Order Requests

A request asks a broker to buy or sell a quantity of a symbol at the market.  It names no price: the
price is what the broker confirms.
-/

namespace TradingDesk.Order

/-- An order to trade a quantity of a symbol at the market. -/
structure Request where
  symbol : String
  side : Side
  quantity : Decimal
deriving DecidableEq

namespace Request

/-- The request as data. -/
def toJson (r : Request) : Json :=
  .obj [("symbol", .str r.symbol), ("side", r.side.toJson), ("quantity", .str r.quantity.render),
    ("type", .str "market")]

end Request

end TradingDesk.Order
