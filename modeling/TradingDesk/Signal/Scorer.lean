import TradingDesk.Signal.Candlestick
import TradingDesk.Signal.Regime

/-!
# Signal Scores

An entry is scored by five conditions on the last two candles and the indicators: the price has
pulled back to an average, the relative strength index is in its window and moves with the trade, a
candlestick pattern supports it, the histogram of the moving averages moves with it, and the volume
holds.  The entry is allowed from a minimum score on.  The reason names the side, the score and the
conditions that held, and the regime when a detector found one.
-/

namespace TradingDesk.Signal

/-- The number of conditions. -/
def maxScore : Nat := 5

/-- Settings of the score. -/
structure ScorerSettings where
  minScore : Nat
  pullbackTolerance : Float
  minVolumeRatio : Float
  rsi : Ranges
  regimeAdaptive : Bool

namespace ScorerSettings

/-- The usual settings. -/
def standard : ScorerSettings :=
  { minScore := 3
    pullbackTolerance := 0.005
    minVolumeRatio := 0.5
    rsi := Ranges.standard
    regimeAdaptive := false }

/-- Reads settings; absent fields take their usual values. -/
def ofJson? (t : Record.Typing) : Json → Option ScorerSettings :=
  Record.read? do
    let minScore ← Record.withDefault ["min_signal_score"] (t.nat? 256) standard.minScore
    let tolerance ← Record.withDefault ["pullback_tolerance"] t.float? standard.pullbackTolerance
    let volumeRatio ← Record.withDefault ["min_volume_ratio"] t.float? standard.minVolumeRatio
    let rsi ← Record.withDefault ["rsi"] (Ranges.ofJson? t) standard.rsi
    let adaptive ← Record.withDefault ["regime_adaptive"] t.flag? standard.regimeAdaptive
    pure ⟨minScore, tolerance, volumeRatio, rsi, adaptive⟩

/-- The settings as data. -/
def toJson (s : ScorerSettings) : Json :=
  .obj [("min_signal_score", .nat s.minScore), ("pullback_tolerance", .real s.pullbackTolerance),
    ("min_volume_ratio", .real s.minVolumeRatio), ("rsi", s.rsi.toJson),
    ("regime_adaptive", .bool s.regimeAdaptive)]

end ScorerSettings

/-- The settings of a score and the detector that adapts it to the market. -/
structure Scorer where
  settings : ScorerSettings
  detector : Option RegimeDetector

/-- The scorer of settings, with the usual detector when they ask for one. -/
def Scorer.ofSettings (s : ScorerSettings) : Scorer :=
  ⟨s, if s.regimeAdaptive then some RegimeDetector.standard else none⟩

/-- Which conditions held. -/
structure Conditions where
  pullback : Bool
  rsi : Bool
  candlestick : Bool
  macd : Bool
  volume : Bool
deriving DecidableEq

/-- The names of the conditions that held, in their order. -/
def Conditions.labels (c : Conditions) : List String :=
  ([(c.pullback, "pullback"), (c.rsi, "rsi"), (c.candlestick, "candlestick"), (c.macd, "macd"),
    (c.volume, "volume")].filter (·.1)).map (·.2)

/-- The number of conditions that held. -/
def Conditions.score (c : Conditions) : Nat :=
  c.labels.length

/-- The outcome of a score. -/
structure Score where
  allowed : Bool
  score : Nat
  reason : String
deriving DecidableEq

/-- The score as data. -/
def Score.toJson (s : Score) : Json :=
  .obj [("allowed", .bool s.allowed), ("score", .nat s.score), ("reason", .str s.reason)]

/-- Whether a series moved with a trade at the last bar. -/
def movesWith (side : Side) (last previous : Float) : Bool :=
  match side with
  | .buy => previous < last
  | .sell => last < previous

/-- Whether the index lies in the window and moves with the trade. -/
def rsiSupports (side : Side) (i : Indicators) (bounds : Bounds) : Bool :=
  match lastTwo? i.rsi with
  | some (last, previous) => bounds.contains last && movesWith side last previous
  | none => false

/-- Whether the histogram moves with the trade. -/
def macdSupports (side : Side) (i : Indicators) : Bool :=
  match lastTwo? i.macdHistogram with
  | some (last, previous) => movesWith side last previous
  | none => false

/-- Whether a price is within a tolerance of the latest value of a series. -/
def isNear (tolerance close : Float) (series : List Float) : Bool :=
  match series.getLast? with
  | some level => level.isFinite && 0.0 < level && ((close - level) / level).abs ≤ tolerance
  | none => false

namespace Scorer

/-- Whether the price has pulled back to an average. -/
def pullback (s : Scorer) (last : Candle) (i : Indicators) : Bool :=
  let close := last.close.toFloat
  isNear s.settings.pullbackTolerance close i.ema21 ||
    isNear s.settings.pullbackTolerance close i.vwap

/-- Whether the volume holds against the candle before. -/
def volumeHolds (s : Scorer) (previous last : Candle) : Bool :=
  let before := previous.volume.toFloat
  if before ≤ 0.0 then 0.0 < last.volume.toFloat
  else s.settings.minVolumeRatio * before ≤ last.volume.toFloat

/-- The regime that the detector finds, if there is one. -/
def regime? (s : Scorer) (i : Indicators) : Option Regime :=
  s.detector.bind (·.detect? i)

/-- The window of a side, from the regime or else from the settings. -/
def bounds (s : Scorer) (side : Side) (i : Indicators) : Bounds :=
  let ranges := match s.detector, s.regime? i with
    | some detector, some regime => detector.ranges regime
    | _, _ => s.settings.rsi
  ranges.side side

/-- The conditions of an entry. -/
def conditions? (s : Scorer) (side : Side) (previous last : Candle) (i : Indicators) :
    Option Conditions := do
  let candlestick ← candlestick? side previous last
  some
    { pullback := s.pullback last i
      rsi := rsiSupports side i (s.bounds side i)
      candlestick := candlestick
      macd := macdSupports side i
      volume := s.volumeHolds previous last }

/-- The reason given for a score. -/
def reason (s : Scorer) (side : Side) (c : Conditions) (regime : Option Regime) : String :=
  side.name ++ " score " ++ toString c.score ++ "/" ++ toString maxScore ++ " (min " ++
    toString s.settings.minScore ++ "): " ++
    (if c.labels.isEmpty then "none" else ", ".intercalate c.labels) ++
    (match regime with
      | some r => " [regime " ++ r.label ++ "]"
      | none => "")

/-- Scores an entry on the last two candles. -/
def score? (s : Scorer) (side : Side) (previous last : Candle) (i : Indicators) :
    Option Score := do
  let conditions ← s.conditions? side previous last i
  some
    { allowed := decide (s.settings.minScore ≤ conditions.score)
      score := conditions.score
      reason := s.reason side conditions (s.regime? i) }

end Scorer

end TradingDesk.Signal
