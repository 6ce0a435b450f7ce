import TradingDesk.Bot.Session
import TradingDesk.Broker.Paper

/-!
# Backtest Settings

A backtest trades one symbol from an initial capital, with its own slippage and fee.  The first
candles only warm up the indicators.  Everything else is set as for a running bot.
-/

namespace TradingDesk.Backtest

/-- Settings of a backtest. -/
structure Settings where
  symbol : String
  initialCapital : Decimal
  slippage : Decimal
  feeRate : Decimal
  warmup : Nat
  scorer : Signal.ScorerSettings
  execution : Execution.Settings
  risk : Risk.Settings
  sizing : Sizing.Settings
  bot : Bot.Settings

namespace Settings

/-- The usual settings. -/
def standard : Settings :=
  { symbol := "BTC-USD"
    initialCapital := Decimal.const 10000 0
    slippage := Decimal.const 5 4
    feeRate := Decimal.const 7 3
    warmup := 50
    scorer := Signal.ScorerSettings.standard
    execution := Execution.Settings.standard
    risk := Risk.Settings.standard
    sizing := Sizing.Settings.standard
    bot := Bot.Settings.standard }

/-- Reads settings; absent fields take their usual values. -/
def ofJson? (t : Record.Typing) : Json → Option Settings :=
  Record.read? do
    let symbol ← Record.withDefault ["symbol"] t.text? standard.symbol
    let capital ← Record.withDefault ["initial_capital"] Record.decimal? standard.initialCapital
    let slippage ← Record.withDefault ["slippage"] Record.decimal? standard.slippage
    let feeRate ← Record.withDefault ["fee_rate"] Record.decimal? standard.feeRate
    let warmup ← Record.withDefault ["warmup"] (t.nat? limit64) standard.warmup
    let scorer ← Record.withDefault ["scorer"] (Signal.ScorerSettings.ofJson? t) standard.scorer
    let execution ←
      Record.withDefault ["execution"] (Execution.Settings.ofJson? t) standard.execution
    let risk ← Record.withDefault ["risk"] (Risk.Settings.ofJson? t) standard.risk
    let sizing ← Record.withDefault ["sizing"] (Sizing.Settings.ofJson? t) standard.sizing
    let bot ← Record.withDefault ["bot"] (Bot.Settings.ofJson? t) standard.bot
    pure ⟨symbol, capital, slippage, feeRate, warmup, scorer, execution, risk, sizing, bot⟩

/-- The paper broker of a backtest. -/
def paper (s : Settings) : Broker.Paper.Settings :=
  { initialBalance := s.initialCapital
    slippage := s.slippage
    fee := s.feeRate
    symbols := [s.symbol] }

/-- The bot of a backtest, which books the fee of the backtest and knows no halt file. -/
def trader (s : Settings) : Bot Broker.Paper.State :=
  { settings := { s.bot with symbols := [s.symbol] }
    scorer := Signal.Scorer.ofSettings s.scorer
    sizing := s.sizing
    engine :=
      { settings := { s.execution with feeRate := s.feeRate, retryPause := 0, haltFile := none }
        broker := Broker.Paper.broker s.paper } }

/-- The number of candles that a backtest has to exceed. -/
def leastCandles (s : Settings) : Nat :=
  Max.max s.warmup 2

end Settings

end TradingDesk.Backtest
