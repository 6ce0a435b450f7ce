import TradingDesk.Order.Request
import TradingDesk.Order.Response

/-!
# Brokers

A broker is a state that answers orders.  An answer is either a response, which may still refuse the
order, or the text of a failure of the connection, after which nothing is known about the order.
Placing an order can also leave the range of decimals, and then there is no answer at all.

Nothing else is assumed of a broker, so whatever holds for every broker holds for every sequence of
answers.
-/

namespace TradingDesk

/-- Something that trades, with its states. -/
structure Broker (σ : Type) where
  name : String
  supports : String → Bool
  place : σ → Order.Request → Option (Except String Order.Response × σ)
  balance : σ → Decimal

namespace Broker

/-- What a broker holds of a symbol; a short holding is negative. -/
structure Holding where
  symbol : String
  quantity : Decimal
  averagePrice : Decimal
deriving DecidableEq

/-- Reads a holding. -/
def Holding.ofJson? : Json → Option Holding :=
  Record.read? do
    let symbol ← Record.required ["symbol"] (Record.Typing.text? .strict)
    let quantity ← Record.required ["quantity"] Record.decimal?
    let averagePrice ← Record.withDefault ["avg_price"] Record.decimal? Decimal.zero
    pure ⟨symbol, quantity, averagePrice⟩

/-- A holding as data. -/
def Holding.toJson (h : Holding) : Json :=
  .obj [("symbol", .str h.symbol), ("quantity", .str h.quantity.render),
    ("avg_price", .str h.averagePrice.render)]

/-- Whether a list of symbols, which means all of them when it is empty, covers a symbol. -/
def covers (symbols : List String) (symbol : String) : Bool :=
  symbols.isEmpty || symbols.contains symbol

end Broker

end TradingDesk
