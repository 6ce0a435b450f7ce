import TradingDesk.Decimal.Text
import TradingDesk.Identifier
import TradingDesk.Order.Side
import TradingDesk.Record.Reader

/-!
# Trades

A trade is a confirmed fill as the ledger keeps it: it entered a position or took something off
one, and an exit carries the result realised on its quantity before fees.  Trades are named either
by an identifier that they came with or by a serial number that the desk drew.
-/

namespace TradingDesk

namespace Trade

/-- What a fill did to its position. -/
inductive Kind where
  | entry
  | exit
deriving DecidableEq, Repr

/-- The name of a kind. -/
def Kind.name : Kind → String
  | .entry => "entry"
  | .exit => "exit"

/-- The name of a trade. -/
inductive Id where
  | given (text : String)
  | drawn (serial : Nat)
deriving DecidableEq

/-- The text of a name. -/
def Id.text : Id → String
  | .given text => text
  | .drawn serial => Identifier.text serial

end Trade

/-- A confirmed fill of a user in a symbol. -/
structure Trade where
  id : Trade.Id
  user : String
  symbol : String
  side : Side
  kind : Trade.Kind
  quantity : Decimal
  price : Decimal
  fee : Decimal
  orderId : String
  profit : Decimal
  reason : String
  timestamp : Instant
deriving DecidableEq

namespace Trade

/-- The value of the fill. -/
def notional? (t : Trade) : Option Decimal :=
  Decimal.mul? t.quantity t.price

/-! ## Text -/

/-- Reads a kind from its exact name. -/
def Kind.ofJson? : Json → Option Kind :=
  Record.Typing.choice? .strict [("entry", .entry), ("exit", .exit)]

/-- Reads a trade. -/
def ofJson? : Json → Option Trade :=
  let text? := Record.Typing.text? .strict
  Record.read? do
    let id ← Record.required ["id"] text?
    let user ← Record.required ["user_id"] text?
    let symbol ← Record.required ["symbol"] text?
    let side ← Record.required ["side"] Side.ofJson?
    let kind ← Record.required ["kind"] Kind.ofJson?
    let quantity ← Record.required ["quantity"] Record.decimal?
    let price ← Record.required ["price"] Record.decimal?
    let fee ← Record.withDefault ["fee"] Record.decimal? Decimal.zero
    let orderId ← Record.required ["order_id"] text?
    let profit ← Record.withDefault ["realized_pnl"] Record.decimal? Decimal.zero
    let reason ← Record.withDefault ["reason"] text? ""
    let timestamp ← Record.required ["timestamp"] Record.instant?
    pure ⟨.given id, user, symbol, side, kind, quantity, price, fee, orderId, profit, reason,
      timestamp⟩

/-- The fields of a trade. -/
def toJson (t : Trade) : Json :=
  .obj [("id", .str t.id.text), ("user_id", .str t.user), ("symbol", .str t.symbol),
    ("side", t.side.toJson), ("kind", .str t.kind.name), ("quantity", .str t.quantity.render),
    ("price", .str t.price.render), ("fee", .str t.fee.render), ("order_id", .str t.orderId),
    ("realized_pnl", .str t.profit.render), ("reason", .str t.reason),
    ("timestamp", .str t.timestamp.render)]

end Trade

end TradingDesk
