import TradingDesk.Broker.Basic
import TradingDesk.Configuration.Basic
import TradingDesk.Ledger.Statistics
import TradingDesk.Risk.State

/-!
# Catalogue

The catalogue lists the types that are exchanged as data, by name.  Reading a value as one of them
and writing it back gives its normal form: fields in their order, every field present, and numbers
and times in their usual text.
-/

namespace TradingDesk.Catalogue

/-- The normal form of a value, when it can be read. -/
abbrev Normalizer := Json → Option Json

/-- Reads a value and writes it back. -/
def through {α : Type} (read? : Json → Option α) (toJson : α → Json) : Normalizer :=
  fun j ↦ (read? j).map toJson

/-- Single values. -/
def scalars : List (String × Normalizer) :=
  [("decimal", through Record.decimal? fun d ↦ .str d.render),
    ("datetime", through Record.instant? fun t ↦ .str t.render),
    ("side", through Side.ofJson? Side.toJson),
    ("target_type", through Allocation.TargetType.ofJson? fun t ↦ .str t.name),
    ("allocation_method",
      through (Record.Typing.choice? .strict Allocation.Method.choices) fun m ↦ .str m.name)]

/-- Records of markets, orders, positions and plans, given the time of reading. -/
def records (now : Instant) : List (String × Normalizer) :=
  [("candle", through Candle.ofJson? Candle.toJson),
    ("fill", through Order.Fill.ofJson? Order.Fill.toJson),
    ("order_response", through Order.Response.ofJson? Order.Response.toJson),
    ("position", through Position.ofJson? Position.toJson),
    ("trade", through Trade.ofJson? Trade.toJson),
    ("metrics", through Performance.Report.ofJson? Performance.Report.toJson),
    ("target", through (Allocation.Target.ofJson? now) Allocation.Target.toJson),
    ("plan", through Allocation.Plan.ofJson? Allocation.Plan.toJson),
    ("risk_state", through Risk.State.ofJson? Risk.State.toJson),
    ("indicator_set", through Signal.Indicators.ofJson? Signal.Indicators.toJson),
    ("broker_position", through Broker.Holding.ofJson? Broker.Holding.toJson),
    ("trade_statistics", through Ledger.Statistics.ofJson? Ledger.Statistics.toJson)]

/-- Settings. -/
def settings : List (String × Normalizer) :=
  [("rsi_ranges", through (Signal.Ranges.ofJson? .strict) Signal.Ranges.toJson),
    ("adx_detector", through Signal.RegimeDetector.ofJson? Signal.RegimeDetector.toJson),
    ("ladder", through Execution.Ladder.ofJson? Execution.Ladder.toJson),
    ("scorer_config",
      through (Signal.ScorerSettings.ofJson? .strict) Signal.ScorerSettings.toJson),
    ("execution_config", through (Execution.Settings.ofJson? .strict) Execution.Settings.toJson),
    ("risk_config", through (Risk.Settings.ofJson? .strict) Risk.Settings.toJson),
    ("sizing_config", through (Sizing.Settings.ofJson? .strict) Sizing.Settings.toJson),
    ("allocation_config",
      through (Allocation.Settings.ofJson? .strict) Allocation.Settings.toJson),
    ("bot_config", through (Bot.Settings.ofJson? .strict) Bot.Settings.toJson),
    ("paper_config",
      through (Broker.Paper.Settings.ofJson? .strict) Broker.Paper.Settings.toJson),
    ("rest_config", through (Gateway.Settings.ofJson? .strict) Gateway.Settings.toJson),
    ("app_config", through (Configuration.ofJson? .strict) Configuration.toJson)]

/-- The normal forms by the names of their types. -/
def find? (now : Instant) (name : String) : Option Normalizer :=
  List.lookup name (scalars ++ records now ++ settings)

end TradingDesk.Catalogue
