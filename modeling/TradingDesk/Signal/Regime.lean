import TradingDesk.Order.Side
import TradingDesk.Record.Reader
import TradingDesk.Signal.Indicator

/-!
# Market Regimes

A market trends, ranges or is in transition, by the latest value of its average directional index
against two thresholds.  Each regime has its own window of the relative strength index for long and
for short entries.  Without a finite index there is no regime.
-/

namespace TradingDesk.Signal

/-- The character of a market. -/
inductive Regime where
  | trending
  | ranging
  | transitional
deriving DecidableEq, Repr

/-- The name of a regime as data. -/
def Regime.name : Regime → String
  | trending => "trending"
  | ranging => "ranging"
  | transitional => "transitional"

/-- The name of a regime within a sentence. -/
def Regime.label : Regime → String
  | trending => "Trending"
  | ranging => "Ranging"
  | transitional => "Transitional"

/-- A closed window. -/
structure Bounds where
  min : Float
  max : Float

/-- Whether a value lies in the window. -/
def Bounds.contains (b : Bounds) (x : Float) : Bool :=
  b.min ≤ x && x ≤ b.max

/-- The windows for long and short entries. -/
structure Ranges where
  long : Bounds
  short : Bounds

/-- The middle window on both sides. -/
def Ranges.standard : Ranges :=
  ⟨⟨30.0, 70.0⟩, ⟨30.0, 70.0⟩⟩

/-- The window of a side. -/
def Ranges.side (r : Ranges) : Side → Bounds
  | .buy => r.long
  | .sell => r.short

/-- Thresholds that tell regimes apart, and the windows of each. -/
structure RegimeDetector where
  trendingThreshold : Float
  rangingThreshold : Float
  trending : Ranges
  ranging : Ranges
  transitional : Ranges

namespace RegimeDetector

/-- The usual thresholds: a trend from 25 on and a range up to 20. -/
def standard : RegimeDetector :=
  { trendingThreshold := 25.0
    rangingThreshold := 20.0
    trending := ⟨⟨40.0, 75.0⟩, ⟨25.0, 60.0⟩⟩
    ranging := ⟨⟨25.0, 55.0⟩, ⟨45.0, 75.0⟩⟩
    transitional := Ranges.standard }

/-- The regime by the latest value of the index. -/
def detect? (d : RegimeDetector) (i : Indicators) : Option Regime :=
  (i.adx.getLast?.filter Float.isFinite).map fun x ↦
    if d.trendingThreshold ≤ x then .trending
    else if x ≤ d.rangingThreshold then .ranging
    else .transitional

/-- The windows of a regime. -/
def ranges (d : RegimeDetector) : Regime → Ranges
  | .trending => d.trending
  | .ranging => d.ranging
  | .transitional => d.transitional

end RegimeDetector

/-- Whether the index rose at the last bar. -/
def trendRising (i : Indicators) : Bool :=
  match lastTwo? i.adx with
  | some (last, previous) => previous < last
  | none => false

/-! ## Text -/

/-- Reads a window. -/
def Bounds.ofJson? (t : Record.Typing) : Json → Option Bounds :=
  Record.read? do
    let min ← Record.required ["min"] t.float?
    let max ← Record.required ["max"] t.float?
    pure ⟨min, max⟩

/-- A window as data. -/
def Bounds.toJson (b : Bounds) : Json :=
  .obj [("min", .real b.min), ("max", .real b.max)]

/-- Reads the windows of both sides. -/
def Ranges.ofJson? (t : Record.Typing) : Json → Option Ranges :=
  Record.read? do
    let long ← Record.required ["long"] (Bounds.ofJson? t)
    let short ← Record.required ["short"] (Bounds.ofJson? t)
    pure ⟨long, short⟩

/-- The windows of both sides as data. -/
def Ranges.toJson (r : Ranges) : Json :=
  .obj [("long", r.long.toJson), ("short", r.short.toJson)]

/-- Reads a detector. -/
def RegimeDetector.ofJson? : Json → Option RegimeDetector :=
  let float? := Record.Typing.float? .strict
  let ranges? := Ranges.ofJson? .strict
  Record.read? do
    let trendingThreshold ← Record.required ["trending_threshold"] float?
    let rangingThreshold ← Record.required ["ranging_threshold"] float?
    let trending ← Record.required ["trending"] ranges?
    let ranging ← Record.required ["ranging"] ranges?
    let transitional ← Record.required ["transitional"] ranges?
    pure ⟨trendingThreshold, rangingThreshold, trending, ranging, transitional⟩

/-- A detector as data. -/
def RegimeDetector.toJson (d : RegimeDetector) : Json :=
  .obj [("trending_threshold", .real d.trendingThreshold),
    ("ranging_threshold", .real d.rangingThreshold), ("trending", d.trending.toJson),
    ("ranging", d.ranging.toJson), ("transitional", d.transitional.toJson)]

end TradingDesk.Signal
