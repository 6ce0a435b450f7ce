import TradingDesk.Broker.Basic
import TradingDesk.Candle
import TradingDesk.Gateway.Address
import TradingDesk.Gateway.Settings
import TradingDesk.Gateway.Status

/-!
# Gateway Connections

A gateway takes orders and gives positions, the balance and candles, all as JSON.  A request is
formed from the settings of the connection, and a reply is read by what was asked for.

Gateways report refused orders in the body, often with an error status, so the body of a reply to an
order is read first and the status counts only when the body cannot be read.  Everywhere else an
error status is an error.
-/

namespace TradingDesk.Gateway

/-- A request to a gateway. -/
structure Request where
  method : String
  target : String
  authorization : Option String
  body : String
deriving DecidableEq

/-- A request as data; the header of the key stands without its outer blanks. -/
def Request.toJson (r : Request) : Json :=
  .obj [("method", .str r.method), ("path", .str r.target),
    ("auth", Json.ofOption (fun s ↦ .str (Text.trim s)) r.authorization), ("body", .str r.body)]

/-- The reply of a gateway. -/
structure Reply where
  status : Status
  body : String

/-- What is asked of a gateway. -/
inductive Topic where
  | order
  | positions
  | balance
  | candles
deriving DecidableEq, Repr

/-- Why asking a gateway gave nothing. -/
inductive Error where
  | unreachable (topic : Topic)
  | refused (topic : Topic) (status : Status) (body : String)
  | unreadable (topic : Topic)
deriving DecidableEq

namespace Topic

/-- The name of a topic. -/
def name : Topic → String
  | order => "order"
  | positions => "positions"
  | balance => "balance"
  | candles => "candles"

/-- The name of a topic at the start of a sentence. -/
def title : Topic → String
  | order => "Order"
  | positions => "Positions"
  | balance => "Balance"
  | candles => "Candles"

end Topic

/-- The text of a failure. -/
def Error.message : Error → String
  | unreachable .order => "Failed to send order"
  | unreachable topic => "Failed to fetch " ++ topic.name
  | refused topic status body =>
    topic.title ++ " request failed: " ++ status.text ++ " - " ++ body
  | unreadable topic => "Failed to parse " ++ topic.name ++ " response"

/-! ## Requests -/

namespace Settings

/-- Whether a header can carry a character. -/
def isCarried (c : Char) : Bool :=
  c == '\t' || (32 ≤ c.toNat && c.toNat != 127)

/-- The address of a path at the gateway. -/
def address (s : Settings) (path : String) : String :=
  String.ofList (s.baseUrl.toList.reverse.dropWhile (· == '/')).reverse ++ path

/-- The header that carries the key. -/
def authorization (s : Settings) : Option String :=
  s.apiKey.map fun key ↦ "Bearer " ++ key

/-- A request, unless its key cannot be sent. -/
def request? (s : Settings) (method path body : String) : Option Request :=
  if (s.apiKey.getD "").toList.all isCarried then
    some ⟨method, Address.target (s.address path), s.authorization, body⟩
  else
    none

/-- The request to place an order. -/
def orderRequest? (s : Settings) (order : Order.Request) : Option Request :=
  s.request? "POST" "/orders" order.toJson.compact

/-- The request for the positions. -/
def positionsRequest? (s : Settings) : Option Request :=
  s.request? "GET" "/positions" ""

/-- The request for the balance. -/
def balanceRequest? (s : Settings) : Option Request :=
  s.request? "GET" "/balance" ""

/-- The request for the latest candles of a symbol. -/
def candlesRequest? (s : Settings) (symbol : String) (limit : Nat) : Option Request :=
  s.request? "GET" ("/candles?symbol=" ++ symbol ++ "&limit=" ++ toString limit) ""

/-- Whether a symbol may be traded. -/
def supports (s : Settings) (symbol : String) : Bool :=
  Broker.covers s.symbols symbol

end Settings

/-- The name of a gateway as a broker. -/
def brokerName : String := "rest"

/-! ## Replies -/

/-- The body as it arrives. -/
def Reply.content (r : Reply) : String :=
  if r.status.isBodiless then "" else r.body

/-- The response to an order that a reply stands for. -/
def orderAnswer (reply : Reply) : Except Error Order.Response :=
  match (Json.parse? reply.content).bind Order.Response.ofJson? with
  | some response => .ok response
  | none =>
    if reply.status.isSuccess then .error (.unreadable .order)
    else
      .ok { Order.Response.empty with
        status := some "error"
        error := some (reply.status.text ++ " - " ++ reply.content) }

/-- The answer of a gateway to an order; without a reply it could not be reached. -/
def placed (reply : Option Reply) : Except Error Order.Response :=
  match reply with
  | none => .error (.unreachable .order)
  | some reply => orderAnswer reply

/-- What a reply to a question says. -/
def answered {α : Type} (topic : Topic) (read? : Json → Option α) (reply : Option Reply) :
    Except Error α :=
  match reply with
  | none => .error (.unreachable topic)
  | some reply =>
    if !reply.status.isSuccess then .error (.refused topic reply.status reply.content)
    else match (Json.parse? reply.content).bind read? with
      | some a => .ok a
      | none => .error (.unreadable topic)

/-- The positions that a gateway reports. -/
def positions (reply : Option Reply) : Except Error (List Broker.Holding) :=
  answered .positions (Record.Typing.list? Broker.Holding.ofJson?) reply

/-- The balance that a gateway reports. -/
def balance (reply : Option Reply) : Except Error Decimal :=
  answered .balance (Record.read? (Record.required ["balance"] Record.decimal?)) reply

/-- The candles that a gateway reports, in the order of time. -/
def candles (reply : Option Reply) : Except Error (List Candle) :=
  (answered .candles (Record.Typing.list? Candle.ofJson?) reply).map Candle.sortByTime

/-- The state of a gateway as a broker is the list of replies that are still to come. -/
abbrev Exchange := List (Option Reply)

/-- A gateway as a broker, given the balance that it reported. -/
def broker (s : Settings) (balance : Decimal) : Broker Exchange where
  name := brokerName
  supports := s.supports
  place exchange _ :=
    some (((placed (exchange.headD none)).mapError Error.message), exchange.drop 1)
  balance _ := balance

end TradingDesk.Gateway
