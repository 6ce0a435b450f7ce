import TradingDesk.Decimal.Text
import TradingDesk.Record.Reader
import TradingDesk.Text.Blank

/-!
# Order Responses

Brokers disagree about the shape of an answer to an order, so every field of a response is
optional, and nothing is concluded from a response before it is confirmed.  This module reads
responses and gives the three views that confirmation starts from: the identifier, the status in
lower case, and the error text, each without surrounding blanks and absent when blank.
-/

namespace TradingDesk.Order

/-- A part of an order that was filled at one price. -/
structure Fill where
  price : Decimal
  quantity : Decimal
deriving DecidableEq

/-- The answer of a broker to an order. -/
structure Response where
  status : Option String
  orderId : Option String
  id : Option String
  transactionIds : List String
  error : Option String
  symbol : Option String
  filledVolume : Option Decimal
  averageFilledPrice : Option Decimal
  filledPrice : Option Decimal
  price : Option Decimal
  fills : List Fill
  timestamp : Option String
deriving DecidableEq

namespace Response

/-- A response that says nothing. -/
def empty : Response :=
  ⟨none, none, none, [], none, none, none, none, none, none, [], none⟩

instance : Inhabited Response := ⟨empty⟩

/-- A response that refuses the order. -/
def rejection (message : String) : Response :=
  { empty with status := some "rejected", error := some message }

/-- The first identifier that is not blank, without surrounding blanks. -/
def reference? (r : Response) : Option String :=
  ((r.orderId.toList ++ r.id.toList ++ r.transactionIds).map Text.trim).find? (!·.isEmpty)

/-- The status in lower case, unless it is blank. -/
def normalizedStatus? (r : Response) : Option String :=
  (r.status.map fun s ↦ Text.lowercase (Text.trim s)).filter (!·.isEmpty)

/-- The error text, unless it is blank. -/
def errorMessage? (r : Response) : Option String :=
  (r.error.map Text.trim).filter (!·.isEmpty)

end Response

/-! ## Text -/

/-- Reads a fill; its quantity goes by three names. -/
def Fill.ofJson? : Json → Option Fill :=
  Record.read? do
    let price ← Record.required ["price"] Record.decimal?
    let quantity ← Record.withDefault ["quantity", "size", "qty"] Record.decimal? Decimal.zero
    pure ⟨price, quantity⟩

/-- The fields of a fill. -/
def Fill.toJson (f : Fill) : Json :=
  .obj [("price", .str f.price.render), ("quantity", .str f.quantity.render)]

/-- Reads a response. -/
def Response.ofJson? : Json → Option Response :=
  let text? := Record.Typing.text? .strict
  Record.read? do
    let status ← Record.optional ["status"] text?
    let orderId ← Record.optional ["order_id"] text?
    let id ← Record.optional ["id"] text?
    let transactionIds ← Record.withDefault ["txid"] (Record.Typing.list? text?) []
    let error ← Record.optional ["error"] text?
    let symbol ← Record.optional ["symbol"] text?
    let filledVolume ← Record.optional ["filled_volume"] Record.decimal?
    let averageFilledPrice ← Record.optional ["average_filled_price"] Record.decimal?
    let filledPrice ← Record.optional ["filled_price"] Record.decimal?
    let price ← Record.optional ["price"] Record.decimal?
    let fills ← Record.withDefault ["fills"] (Record.Typing.list? Fill.ofJson?) []
    let timestamp ← Record.optional ["timestamp"] text?
    pure ⟨status, orderId, id, transactionIds, error, symbol, filledVolume, averageFilledPrice,
      filledPrice, price, fills, timestamp⟩

/-- The fields of a response. -/
def Response.toJson (r : Response) : Json :=
  let text := Json.ofOption Json.str
  let amount := Json.ofOption fun d : Decimal ↦ .str d.render
  .obj [("status", text r.status), ("order_id", text r.orderId), ("id", text r.id),
    ("txid", Json.ofList Json.str r.transactionIds), ("error", text r.error),
    ("symbol", text r.symbol), ("filled_volume", amount r.filledVolume),
    ("average_filled_price", amount r.averageFilledPrice), ("filled_price", amount r.filledPrice),
    ("price", amount r.price), ("fills", Json.ofList Fill.toJson r.fills),
    ("timestamp", text r.timestamp)]

end TradingDesk.Order
