import TradingDesk.Allocation.Allocator
import TradingDesk.Bot.Session
import TradingDesk.Broker.Paper
import TradingDesk.Execution.Settings
import TradingDesk.Gateway.Settings
import TradingDesk.Risk.Settings
import TradingDesk.Sizing

/-!
# Configuration

The configuration joins the settings of all parts and the address of the ledger.  Every part has
its usual settings, so that an empty configuration is complete.
-/

namespace TradingDesk

/-- The settings of all parts. -/
structure Configuration where
  databaseUrl : String
  bot : Bot.Settings
  scorer : Signal.ScorerSettings
  execution : Execution.Settings
  risk : Risk.Settings
  sizing : Sizing.Settings
  allocation : Allocation.Settings
  paper : Broker.Paper.Settings
  gateway : Gateway.Settings

namespace Configuration

/-- The usual configuration. -/
def standard : Configuration :=
  { databaseUrl := "sqlite:./cryptotrader.db?mode=rwc"
    bot := Bot.Settings.standard
    scorer := Signal.ScorerSettings.standard
    execution := Execution.Settings.standard
    risk := Risk.Settings.standard
    sizing := Sizing.Settings.standard
    allocation := Allocation.Settings.standard
    paper := Broker.Paper.Settings.standard
    gateway := Gateway.Settings.standard }

/-- Reads a configuration; absent parts take their usual settings. -/
def ofJson? (t : Record.Typing) : Json → Option Configuration :=
  Record.read? do
    let url ← Record.withDefault ["database_url"] t.text? standard.databaseUrl
    let bot ← Record.withDefault ["bot"] (Bot.Settings.ofJson? t) standard.bot
    let scorer ← Record.withDefault ["scorer"] (Signal.ScorerSettings.ofJson? t) standard.scorer
    let execution ←
      Record.withDefault ["execution"] (Execution.Settings.ofJson? t) standard.execution
    let risk ← Record.withDefault ["risk"] (Risk.Settings.ofJson? t) standard.risk
    let sizing ← Record.withDefault ["sizing"] (Sizing.Settings.ofJson? t) standard.sizing
    let allocation ←
      Record.withDefault ["allocation"] (Allocation.Settings.ofJson? t) standard.allocation
    let paper ← Record.withDefault ["paper"] (Broker.Paper.Settings.ofJson? t) standard.paper
    let gateway ← Record.withDefault ["rest"] (Gateway.Settings.ofJson? t) standard.gateway
    pure ⟨url, bot, scorer, execution, risk, sizing, allocation, paper, gateway⟩

/-- The configuration as data. -/
def toJson (c : Configuration) : Json :=
  .obj [("database_url", .str c.databaseUrl), ("bot", c.bot.toJson), ("scorer", c.scorer.toJson),
    ("execution", c.execution.toJson), ("risk", c.risk.toJson), ("sizing", c.sizing.toJson),
    ("allocation", c.allocation.toJson), ("paper", c.paper.toJson), ("rest", c.gateway.toJson)]

/-- The configuration without its secrets. -/
def redacted (c : Configuration) : Configuration :=
  { c with gateway := c.gateway.redacted }

/-- The bot of a configuration at a broker. -/
def botAt {σ : Type} (c : Configuration) (broker : Broker σ) : Bot σ :=
  { settings := c.bot
    scorer := Signal.Scorer.ofSettings c.scorer
    sizing := c.sizing
    engine := ⟨c.execution, broker⟩ }

end Configuration

end TradingDesk
