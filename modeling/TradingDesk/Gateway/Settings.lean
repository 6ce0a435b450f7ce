import TradingDesk.Record.Reader

/-!
# Gateway Settings

The settings of a connection to a broker's gateway: its base address, the key that is sent with
every request if there is one, how long an answer may take, and the symbols that may be traded.
-/

namespace TradingDesk.Gateway

/-- Settings of a connection. -/
structure Settings where
  baseUrl : String
  apiKey : Option String
  timeout : Nat
  symbols : List String
deriving DecidableEq

namespace Settings

/-- The usual settings. -/
def standard : Settings :=
  { baseUrl := "http://127.0.0.1:8080"
    apiKey := none
    timeout := 30
    symbols := [] }

/-- Reads settings; absent fields take their usual values. -/
def ofJson? (t : Record.Typing) : Json → Option Settings :=
  Record.read? do
    let baseUrl ← Record.withDefault ["base_url"] t.text? standard.baseUrl
    let apiKey ← Record.optional ["api_key"] t.text?
    let timeout ← Record.withDefault ["timeout_secs"] (t.nat? limit64) standard.timeout
    let symbols ← Record.withDefault ["symbols"] (Record.Typing.list? t.text?) standard.symbols
    pure ⟨baseUrl, apiKey, timeout, symbols⟩

/-- The settings as data. -/
def toJson (s : Settings) : Json :=
  .obj [("base_url", .str s.baseUrl), ("api_key", Json.ofOption Json.str s.apiKey),
    ("timeout_secs", .nat s.timeout), ("symbols", Json.ofList Json.str s.symbols)]

/-- The settings with a mark in place of the key. -/
def redacted (s : Settings) : Settings :=
  { s with apiKey := s.apiKey.map fun _ ↦ "********" }

end Settings

end TradingDesk.Gateway
