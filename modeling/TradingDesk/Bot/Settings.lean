import TradingDesk.Order.Side
import TradingDesk.Record.Reader

/-!
# Bot Settings

The bot trades for one user in a list of symbols.  It looks at the market in fixed intervals, at
most at a given number of candles of each symbol, and scores short entries only when it may.
-/

namespace TradingDesk.Bot

/-- Settings of the bot. -/
structure Settings where
  user : String
  symbols : List String
  pollSeconds : Nat
  candleLimit : Nat
  allowShort : Bool
deriving DecidableEq

namespace Settings

/-- The usual settings. -/
def standard : Settings :=
  { user := "default"
    symbols := ["BTC-USD", "ETH-USD"]
    pollSeconds := 60
    candleLimit := 100
    allowShort := false }

/-- Reads settings; absent fields take their usual values. -/
def ofJson? (t : Record.Typing) : Json → Option Settings :=
  Record.read? do
    let user ← Record.withDefault ["user_id"] t.text? standard.user
    let symbols ← Record.withDefault ["symbols"] (Record.Typing.list? t.text?) standard.symbols
    let poll ← Record.withDefault ["poll_interval_secs"] (t.nat? limit64) standard.pollSeconds
    let limit ← Record.withDefault ["candle_limit"] (t.nat? limit64) standard.candleLimit
    let short ← Record.withDefault ["allow_short"] t.flag? standard.allowShort
    pure ⟨user, symbols, poll, limit, short⟩

/-- The settings as data. -/
def toJson (s : Settings) : Json :=
  .obj [("user_id", .str s.user), ("symbols", Json.ofList Json.str s.symbols),
    ("poll_interval_secs", .nat s.pollSeconds), ("candle_limit", .nat s.candleLimit),
    ("allow_short", .bool s.allowShort)]

/-- The sides that are scored, in the order in which they are preferred. -/
def sides (s : Settings) : List Side :=
  if s.allowShort then [.buy, .sell] else [.buy]

end Settings

end TradingDesk.Bot
