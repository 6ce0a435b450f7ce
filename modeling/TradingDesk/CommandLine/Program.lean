import TradingDesk.Backtest.Replay
import TradingDesk.CommandLine.Command
import TradingDesk.CommandLine.Display
import TradingDesk.CommandLine.Files
import TradingDesk.Configuration.Assignments
import TradingDesk.Configuration.Loading
import TradingDesk.Gateway.Connection
import TradingDesk.Ledger.Location
import TradingDesk.Ledger.Storage

/-!
# Program

The program carries out one command over files and variables at a time, and comes to lines of output
and an exit code.  A command ends early with the text of a failure, or with a fault of arithmetic;
what was shown before stays.  Words that are misused are refused before anything else is done.

The ledger is a file that is written back after every change, or memory that is lost at the end.
-/

namespace TradingDesk.CommandLine

/-- Why a command ended early. -/
inductive Stop where
  | failed (message : String)
  | fault
deriving DecidableEq, Repr

/-- What a command came to. -/
structure Outcome where
  code : Nat
  output : List String
  error : Option String
deriving DecidableEq, Repr

/-- What a command works with. -/
structure Setting (m : Type → Type) where
  files : Files m
  environment : Table String
  now : Instant

/-- A part of a command: it shows lines and can end early. -/
abbrev Action (m : Type → Type) := ReaderT (Setting m) (ExceptT Stop (StateT (List String) m))

namespace Action

variable {m : Type → Type} [Monad m] {α : Type}

/-- Ends with the text of a failure. -/
def fail (message : String) : Action m α :=
  throw (.failed message)

/-- A value that a fault of arithmetic can leave out. -/
def computed : Option α → Action m α
  | some a => pure a
  | none => throw .fault

/-- A value, or a failure with a text. -/
def orFail (message : String) : Option α → Action m α
  | some a => pure a
  | none => fail message

/-- A result, or a failure with the text of its error. -/
def accepted {ε : Type} (message : ε → String) : Except ε α → Action m α
  | .ok a => pure a
  | .error e => fail (message e)

/-- Shows lines. -/
def say (lines : List String) : Action m Unit :=
  modify (· ++ lines)

/-- Works on files. -/
def onFiles (operation : Files m → m α) : Action m α := do
  let files := (← read).files
  let task : m α := operation files
  task

/-! ## Ledgers -/

/-- A ledger and where it is kept. -/
structure Store where
  location : Ledger.Location
  ledger : Ledger

/-- The text of a failure to open a ledger. -/
def noConnection : String := "Failed to connect to database"

/-- The text of a failure to make sense of a ledger. -/
def notALedger : String :=
  "error returned from database: (code: 26) file is not a database"

/-- Opens the ledger at an address; a new one is written at once. -/
def openStore (address : String) : Action m Store := do
  let location ← orFail noConnection (Ledger.Location.parse? address)
  if location.inMemory then
    return ⟨location, .empty⟩
  match ← onFiles (·.read location.path) with
  | some text => return ⟨location, ← orFail notALedger (Ledger.parse? text)⟩
  | none =>
    let made ←
      if location.create && !location.readOnly then
        onFiles (·.write location.path Ledger.empty.storedText)
      else pure false
    if made then return ⟨location, .empty⟩ else fail noConnection

/-- Writes a ledger back. -/
def Store.save (s : Store) (message : String) : Action m Unit := do
  if s.location.inMemory then
    return
  let written ←
    if s.location.readOnly then pure false
    else onFiles (·.write s.location.path s.ledger.storedText)
  if !written then fail message

/-! ## Scores and plans -/

/-- Reads a file of candles. -/
def readCandles (path : String) : Action m (List Candle) := do
  let text ← orFail ("Failed to read candle file " ++ path) (← onFiles (·.read path))
  orFail "Failed to parse candle file" (Candle.parseFile? text)

/-- Scores the latest candle of a file for a side. -/
def score (c : Configuration) (path sideText : String) : Action m Unit := do
  let side ← orFail ("Invalid side: " ++ sideText) (Side.parse? sideText)
  let candles ← readCandles path
  let (last, previous) ← orFail
    ("Need at least two candles, got " ++ toString candles.length) (Signal.lastTwo? candles)
  let indicators ← computed (Signal.Indicators.ofCandles? candles)
  let scorer := Signal.Scorer.ofSettings c.scorer
  let result ← computed (scorer.score? side previous last indicators)
  say ["", "=== Signal Score ===",
    "Candle:   " ++ last.timestamp.minuteText,
    "Close:    " ++ last.close.render,
    "Side:     " ++ side.name,
    "Score:    " ++ toString result.score ++ "/" ++ toString Signal.maxScore,
    "Allowed:  " ++ (if result.allowed then "Yes" else "No"),
    "Reason:   " ++ result.reason]

/-- The decimal of a number. -/
def decimal (x : Float) : Action m Decimal :=
  orFail "Error while converting to Decimal" (Decimal.ofFloat? x)

/-- The type of target of a name in any case. -/
def targetType (name : String) : Action m Allocation.TargetType :=
  let word := Text.lowercase name
  orFail ("Unknown target type: " ++ word) (Allocation.TargetType.ofJson? (.str word))

/-- Reads a file of targets. -/
def readTargets (path : String) : Action m (List Allocation.Target) := do
  let text ← orFail ("Failed to read targets file " ++ path) (← onFiles (·.read path))
  let now := (← read).now
  let targets? (j : Json) := Record.Typing.list? (Allocation.Target.ofJson? now) j
  orFail "Failed to parse targets file" ((Json.parse? text).bind targets?)

/-- Adds a target, and computes its performance anew when it has returns. -/
def addTarget (a : Allocation.Allocator) (t : Allocation.Target) :
    Action m Allocation.Allocator := do
  let a ← accepted Allocation.Error.message (a.add { t with returns := [] })
  if t.returns.isEmpty then
    return a
  accepted Allocation.Error.message (a.updatePerformance t.id t.returns (← read).now)

/-- Makes a plan over the targets of a file, and saves it when asked to. -/
def allocate (c : Configuration) (path : String) (methodName typeName : Option String)
    (capital : Option Float) (save : Bool) : Action m Unit := do
  let method ← match methodName with
    | some name =>
      orFail ("Unknown allocation method: " ++ name) (Allocation.Method.parse? name)
    | none => pure c.allocation.defaultMethod
  let type ← typeName.mapM targetType
  let a := Allocation.Allocator.new c.allocation
  let a ← match capital with
    | some x => pure (a.setTotalCapital (← decimal x))
    | none => pure a
  let a ← (← readTargets path).foldlM addTarget a
  let made ← computed (a.makePlan? method type (← read).now)
  let (_, plan) ← accepted Allocation.Error.message made
  say (planLines plan)
  if save then
    let store ← openStore c.databaseUrl
    let ledger := store.ledger.savePlan plan.storedText
    Store.save { store with ledger := ledger } "Failed to save allocation plan"
    say ["", "Saved plan #" ++ toString ledger.plans.length]

/-! ## Risk and halts -/

/-- Opens the ledger and loads its risk states. -/
def openRisk (c : Configuration) : Action m (Store × Risk.Manager) := do
  let store ← openStore c.databaseUrl
  let (manager, loaded) := (Risk.Manager.new c.risk).load store.ledger
  discard (accepted Risk.Manager.unreadable loaded)
  return (store, manager)

/-- Writes risk states back. -/
def saveRisk (store : Store) (manager : Risk.Manager) : Action m Unit :=
  let failure := match manager.states with
    | (_, s) :: _ => "Failed to save risk state for " ++ s.user
    | [] => ""
  Store.save { store with ledger := manager.save store.ledger } failure

/-- Shows the risk state of a user. -/
def showUser (manager : Risk.Manager) (user : String) : Action m Unit := do
  match manager.state? user (← read).now with
  | none => say ["", "No risk state for " ++ user]
  | some s =>
    say (balanceLines s)
    say [← computed (drawdownLine? s)]
    say (activityLines s)

/-- Shows the risk state of a user, or those of all users. -/
def showRisk (c : Configuration) (user : Option String) : Action m Unit := do
  let (_, manager) ← openRisk c
  let users := match user with
    | some u => [u]
    | none => manager.users
  if users.isEmpty then say ["No risk state recorded yet."]
  else users.forM (showUser manager)

/-- Clears the breaker of a user, and says whether it had tripped. -/
def clearBreaker (c : Configuration) (user : String) (cleared idle : String) : Action m Unit := do
  let (store, manager) ← openRisk c
  let (manager, wasTripped) := manager.reset user
  if wasTripped then
    saveRisk store manager
    say [cleared]
  else
    say [idle]

/-- Halts the entries of a user by tripping the breaker. -/
def haltUser (c : Configuration) (user reason : String) : Action m Unit := do
  let (store, manager) ← openRisk c
  let now := (← read).now
  if (manager.stored? user).isNone then
    fail ("No risk state for " ++ user ++ "; it is created on the user's first run")
  saveRisk store ((manager.touch user now).trip user reason now)
  say ["Entries halted for " ++ user ++ ": " ++ reason]

/-- Halts all entries by the halt file. -/
def haltAll (file reason : String) : Action m Unit := do
  let folder := folderOf file
  if !folder.isEmpty then
    if !(← onFiles (·.makeFolder folder)) then
      fail ("Failed to create " ++ folder)
  if !(← onFiles (·.write file reason)) then
    fail ("Failed to write kill file " ++ file)
  say ["Global halt engaged (" ++ file ++ ")"]

/-- Takes the halt file away. -/
def resumeAll (file : String) : Action m Unit := do
  if (← onFiles (·.read file)).isNone then
    say ["No global halt was engaged"]
  else
    if !(← onFiles (·.remove file)) then
      fail ("Failed to remove kill file " ++ file)
    say ["Global halt released"]

/-! ## Backtests -/

/-- Trades over a file of candles. -/
def backtest (c : Configuration) (path symbol : String) (capital slippage fee : Float)
    (warmup : Nat) : Action m Unit := do
  let candles ← readCandles path
  say ["", "=== Backtest ===",
    "File:     " ++ path,
    "Symbol:   " ++ symbol,
    "Candles:  " ++ toString candles.length,
    "Capital:  $" ++ Binary64.plainText capital,
    "Slippage: " ++ Binary64.plainText slippage ++ "%",
    "Fee:      " ++ Binary64.plainText fee ++ "%"]
  let settings : Backtest.Settings :=
    { symbol := symbol
      initialCapital := ← decimal capital
      slippage := ← decimal (slippage / 100.0)
      feeRate := ← decimal (fee / 100.0)
      warmup := warmup
      scorer := c.scorer
      execution := c.execution
      risk := c.risk
      sizing := c.sizing
      bot := c.bot }
  let replayed ← computed (settings.run? (← read).now candles)
  let report ← accepted Backtest.Error.message replayed
  say [← computed report.text?]

/-! ## Trading -/

/-- Starts a bot on a broker, and stops it again. -/
def trade {σ : Type} (c : Configuration) (haltFile : String) (broker : Broker σ) (market : σ)
    (balance : Except String Decimal) (mode : String) : Action m Unit := do
  let now := (← read).now
  let store ← openStore c.databaseUrl
  let note ← onFiles (·.read haltFile)
  let b := c.botAt broker
  let desk := Execution.Desk.new market (.new (some ⟨haltFile, note⟩)) now
  let fresh := Bot.Session.new { desk with ledger := store.ledger } (.new c.risk)
  let (s, started) ← computed (b.initialize? fresh now)
  accepted id started
  if ((fresh.risk.load store.ledger).1.stored? c.bot.user).isNone then
    discard (accepted id balance)
  say ["", "=== Crypto Trading Bot ===",
    "User:             " ++ c.bot.user,
    "Symbols:          " ++ ", ".intercalate c.bot.symbols,
    "Polling interval: " ++ toString c.bot.pollSeconds ++ "s",
    "Mode: " ++ mode,
    "Kill file:        " ++ haltFile,
    "", "Press Ctrl+C to stop.", ""]
  let s ← computed (b.run? (fun _ _ ↦ none) [] s)
  Store.save { store with ledger := s.desk.ledger } "Failed to save risk state"
  say ["", (b.summary s).text]

/-- Starts the bot over a gateway that cannot be reached: it trades on paper when it is dry, and
otherwise needs the balance of the gateway unless it knows the user already. -/
def start (c : Configuration) (haltFile : String) (dry : Bool) : Action m Unit :=
  if dry then
    trade c haltFile (Broker.Paper.broker c.paper) (.new c.paper) (.ok c.paper.initialBalance)
      "DRY RUN (paper fills)"
  else
    trade c haltFile (Gateway.broker c.gateway .zero) []
      ((Gateway.balance none).mapError Gateway.Error.message) "LIVE TRADING"

/-! ## Statistics -/

/-- Shows the statistics of the ledger, its open positions and its latest plan. -/
def statistics (c : Configuration) (user : Option String) : Action m Unit := do
  let l := (← openStore c.databaseUrl).ledger
  let s ← accepted Ledger.Error.message (← computed (l.statistics? user))
  let positions ← accepted Ledger.Error.message (l.readPositions user)
  say ["", "=== Ledger ==="]
  say [← computed s.text?]
  if !positions.isEmpty then
    say positionHeading
    positions.forM fun p ↦ do say [← computed (positionLine? p)]
  for text in l.recentPlans 1 do
    let plan ← orFail Ledger.Error.badPlan.message (Allocation.Plan.parse? text)
    say ("" :: "=== Latest Allocation Plan ===" :: planLines plan)

/-! ## Commands -/

/-- The name of the configuration file when none is given. -/
def usualConfiguration : String := "cryptotrader"

/-- The halt file when the configuration names none. -/
def usualHaltFile : String := "cryptotrader.halt"

/-- The form of a file by the end of its name. -/
def formatOf (file : String) : Option Configuration.Layer.Format :=
  (Configuration.Layer.Format.extensions.find? fun (ending, _) ↦
    file.endsWith ("." ++ ending)).map (·.2)

/-- Finds the configuration file of a name: the file itself when it exists, and otherwise the first
one whose name goes on with the ending of a form. -/
def findConfiguration (name : String) (missing : Configuration.Source) :
    Action m Configuration.Source := do
  if let some text ← onFiles (·.read name) then
    return match formatOf name with
      | some format => .file format text
      | none => missing
  for (ending, format) in Configuration.Layer.Format.extensions do
    if let some text ← onFiles (·.read (name ++ "." ++ ending)) then
      return .file format text
  return missing

/-- Loads the configuration of an invocation; a file that it names has to exist. -/
def configure (i : Invocation) : Action m Configuration := do
  let source ← match i.configuration with
    | some file => findConfiguration file .unreadable
    | none => findConfiguration usualConfiguration .absent
  let loaded := Configuration.load source (← read).environment
  let c ← accepted Configuration.Error.message loaded
  let haltFile := c.execution.haltFile.getD usualHaltFile
  return { c with
    databaseUrl := i.ledger.getD c.databaseUrl
    execution := { c.execution with haltFile := some haltFile } }

/-- Carries out a command. -/
def perform (c : Configuration) (command : Command) : Action m Unit :=
  let haltFile := c.execution.haltFile.getD usualHaltFile
  match command with
  | .score candles side => score c candles side
  | .allocate targets method type capital save => allocate c targets method type capital save
  | .showRisk user => showRisk c user
  | .resetRisk user =>
    clearBreaker c user ("Circuit breaker reset for " ++ user)
      ("No tripped circuit breaker for " ++ user)
  | .halt none reason => haltAll haltFile reason
  | .halt (some user) reason => haltUser c user reason
  | .resume none => resumeAll haltFile
  | .resume (some user) =>
    clearBreaker c user ("Entries resumed for " ++ user) (user ++ " was not halted")
  | .backtest candles symbol capital slippage fee warmup =>
    backtest c candles symbol capital slippage fee warmup
  | .trade dry => start c haltFile dry
  | .statistics user => statistics c user
  | .configuration => say [c.redacted.toJson.pretty]

end Action

/-! ## Running -/

variable {m : Type → Type} [Monad m]

/-- What an invocation comes to. -/
def Invocation.run (i : Invocation) (setting : Setting m) : m Outcome := do
  let task : Action m Unit := do Action.perform (← Action.configure i) i.command
  let (result, output) ← ((task.run setting).run).run []
  return match result with
    | .ok () => ⟨0, output, none⟩
    | .error (.failed message) => ⟨1, output, some message⟩
    | .error .fault => ⟨101, output, none⟩

/-- The file that assigns variables. -/
def variableFile : String := ".env"

/-- What words come to, over files and variables at a time. -/
def run (files : Files m) (environment : Table String) (now : Instant) (words : List String) :
    m Outcome := do
  let environment := match ← files.read variableFile with
    | some text => Configuration.Assignments.apply environment text
    | none => environment
  match Invocation.read words environment with
  | .ok i => i.run ⟨files, environment, now⟩
  | .error .help => return ⟨0, [usage], none⟩
  | .error .misuse => return ⟨2, [], none⟩

end TradingDesk.CommandLine
