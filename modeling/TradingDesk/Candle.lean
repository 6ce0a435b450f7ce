import TradingDesk.Decimal.Binary
import TradingDesk.Json.Reader
import TradingDesk.Json.Writer
import TradingDesk.Record.Reader

/-!
# Candles

A candle is the price range of one interval of a market: its opening, highest, lowest and closing
price, and the volume traded.  The body is the distance between opening and closing price, and the
wicks are what the range has beyond the body on either side.  Differences of decimals can leave
their range, so these sizes are optional.

A file of candles is a JSON array and is used in the order of time.
-/

namespace TradingDesk

/-- The prices and the volume of one interval. -/
structure Candle where
  timestamp : Instant
  opening : Decimal
  high : Decimal
  low : Decimal
  close : Decimal
  volume : Decimal
deriving DecidableEq

namespace Candle

/-- The size of the body. -/
def body? (c : Candle) : Option Decimal :=
  (Decimal.sub? c.close c.opening).map Decimal.abs

/-- The distance from the lowest to the highest price. -/
def range? (c : Candle) : Option Decimal :=
  Decimal.sub? c.high c.low

/-- The wick below the body. -/
def lowerWick? (c : Candle) : Option Decimal :=
  Decimal.sub? (c.opening.min c.close) c.low

/-- The wick above the body. -/
def upperWick? (c : Candle) : Option Decimal :=
  Decimal.sub? c.high (c.opening.max c.close)

/-- Whether the price rose. -/
def isBullish (c : Candle) : Bool :=
  decide (c.opening < c.close)

/-- Whether the price fell. -/
def isBearish (c : Candle) : Bool :=
  decide (c.close < c.opening)

/-- The mean of the highest, lowest and closing price. -/
def typicalPrice? (c : Candle) : Option Float := do
  let total ← Decimal.add? (← Decimal.add? c.high c.low) c.close
  let mean ← Decimal.div? total (Decimal.const 3 0)
  some mean.toFloat

/-! ## Text -/

/-- Reads a candle. -/
def ofJson? : Json → Option Candle :=
  Record.read? do
    let timestamp ← Record.required ["timestamp"] Record.instant?
    let opening ← Record.required ["open"] Record.decimal?
    let high ← Record.required ["high"] Record.decimal?
    let low ← Record.required ["low"] Record.decimal?
    let close ← Record.required ["close"] Record.decimal?
    let volume ← Record.withDefault ["volume"] Record.decimal? Decimal.zero
    pure ⟨timestamp, opening, high, low, close, volume⟩

/-- The fields of a candle. -/
def toJson (c : Candle) : Json :=
  .obj [("timestamp", .str c.timestamp.render), ("open", .str c.opening.render),
    ("high", .str c.high.render), ("low", .str c.low.render), ("close", .str c.close.render),
    ("volume", .str c.volume.render)]

/-- The sizes of a candle and its prices as floating-point numbers, as data. -/
def figures? (c : Candle) : Option Json := do
  let amount (d : Option Decimal) : Option Json := d.map fun d ↦ .str d.render
  let typical ← c.typicalPrice?
  some <| .obj
    [("body", ← amount c.body?), ("range", ← amount c.range?),
      ("lower_wick", ← amount c.lowerWick?), ("upper_wick", ← amount c.upperWick?),
      ("bullish", .bool c.isBullish), ("bearish", .bool c.isBearish),
      ("typical_price", .real typical), ("close", .real c.close.toFloat),
      ("high", .real c.high.toFloat), ("low", .real c.low.toFloat),
      ("volume", .real c.volume.toFloat)]

/-- The candles in the order of time; those of equal times keep their order. -/
def sortByTime (cs : List Candle) : List Candle :=
  cs.mergeSort fun a b ↦ decide (a.timestamp ≤ b.timestamp)

/-- Reads the candles of a file in the order of time. -/
def parseFile? (text : String) : Option (List Candle) := do
  let candles ← Record.Typing.list? ofJson? (← Json.parse? text)
  some (sortByTime candles)

end Candle

end TradingDesk
