import TradingDesk.CommandLine.Word
import TradingDesk.Record.Typing

/-!
# Commands

A command line begins with options for the configuration and the ledger, which two variables can
stand in for.  Then it names a command, and the options of the command follow.  An invocation is
what the words and the variables ask for; nothing else may be left.
-/

namespace TradingDesk.CommandLine

/-- What the program can do. -/
inductive Command where
  | score (candles side : String)
  | allocate (targets : String) (method type : Option String) (capital : Option Float)
      (save : Bool)
  | showRisk (user : Option String)
  | resetRisk (user : String)
  | halt (user : Option String) (reason : String)
  | resume (user : Option String)
  | backtest (candles symbol : String) (capital slippage fee : Float) (warmup : Nat)
  | trade (dry : Bool)
  | statistics (user : Option String)
  | configuration

/-- A command with the configuration file and the ledger that it uses. -/
structure Invocation where
  configuration : Option String
  ledger : Option String
  command : Command

/-! ## Values of options -/

/-- The value of an option, read when it is there. -/
def optional {α : Type} (found : Table String) (name : String) (read? : String → Option α) :
    Except Refusal (Option α) :=
  match found.find? name with
  | none => .ok none
  | some text =>
    match read? text with
    | some a => .ok (some a)
    | none => .error .misuse

/-- The value of an option, or the usual one. -/
def withDefault {α : Type} (found : Table String) (name : String) (read? : String → Option α)
    (usual : α) : Except Refusal α :=
  return (← optional found name read?).getD usual

/-- The value of an option that has to be there. -/
def required {α : Type} (found : Table String) (name : String) (read? : String → Option α) :
    Except Refusal α := do
  match ← optional found name read? with
  | some a => return a
  | none => throw .misuse

/-- The place of a file. -/
def path? (text : String) : Option String :=
  if text.isEmpty then none else some text

/-- A count. -/
def count? (text : String) : Option Nat :=
  (Record.digitsNat? text).filter fun n ↦ decide (n < limit64)

/-! ## The options of commands -/

/-- Reads all remaining words as options. -/
def onlyOptions (switches : List Switch) (words : List String) : Except Refusal (Table String) := do
  match ← options switches [] words with
  | (found, []) => return found
  | _ => throw .misuse

/-- The option that names a user. -/
def userSwitch : Switch := .lettered "user" 'u'

/-- Reads the options of scoring. -/
def readScore (words : List String) : Except Refusal Command := do
  let found ← onlyOptions [.named "candles", .lettered "side" 's'] words
  return .score (← required found "candles" path?) (← withDefault found "side" some "buy")

/-- Reads the options of allocating. -/
def readAllocate (words : List String) : Except Refusal Command := do
  let found ← onlyOptions
    [.named "targets", .lettered "method" 'm', .lettered "type" 't', .named "capital",
      .flag "save"] words
  return .allocate (← required found "targets" path?) (← optional found "method" some)
    (← optional found "type" some) (← optional found "capital" Binary64.parse?)
    (found.find? "save").isSome

/-- Reads what is asked about risk states. -/
def readRisk (words : List String) : Except Refusal Command := do
  match ← options [] [] words with
  | (_, "show" :: rest) =>
    return .showRisk (← optional (← onlyOptions [userSwitch] rest) "user" some)
  | (_, "reset" :: rest) =>
    return .resetRisk (← required (← onlyOptions [userSwitch] rest) "user" some)
  | (_, ["help"]) => throw .help
  | _ => throw .misuse

/-- Reads the options of a halt. -/
def readHalt (words : List String) : Except Refusal Command := do
  let found ← onlyOptions [userSwitch, .lettered "reason" 'r'] words
  return .halt (← optional found "user" some) (← withDefault found "reason" some "manual halt")

/-- Reads the options of a backtest. -/
def readBacktest (words : List String) : Except Refusal Command := do
  let found ← onlyOptions
    [.named "candles", .lettered "symbol" 's', .lettered "capital" 'c', .named "slippage",
      .named "fee", .named "warmup"] words
  return .backtest (← required found "candles" path?) (← withDefault found "symbol" some "BTC-USD")
    (← withDefault found "capital" Binary64.parse? 10000.0)
    (← withDefault found "slippage" Binary64.parse? 0.05)
    (← withDefault found "fee" Binary64.parse? 0.7) (← withDefault found "warmup" count? 50)

/-- Reads the options of a command by its name. -/
def readCommand : List String → Except Refusal Command
  | "score" :: words => readScore words
  | "allocate" :: words => readAllocate words
  | "risk" :: words => readRisk words
  | "halt" :: words => readHalt words
  | "resume" :: words => return .resume (← optional (← onlyOptions [userSwitch] words) "user" some)
  | "backtest" :: words => readBacktest words
  | "run" :: words => return .trade ((← onlyOptions [.flag "dry-run"] words).find? "dry-run").isSome
  | "stats" :: words =>
    return .statistics (← optional (← onlyOptions [userSwitch] words) "user" some)
  | "config" :: words => do
    discard (onlyOptions [] words)
    return .configuration
  | "help" :: _ => throw .help
  | _ => throw .misuse

/-- The names of the commands. -/
def commandNames : List String :=
  ["score", "allocate", "risk", "halt", "resume", "backtest", "run", "stats", "config"]

/-- How the program is used. -/
def usage : String :=
  "Usage: cryptotrader [OPTIONS] <COMMAND>\n\nCommands: " ++ ", ".intercalate commandNames

/-! ## Invocations -/

/-- The variable that stands in for the option of the configuration file. -/
def configurationVariable : String := "CRYPTOTRADER_CONFIG"

/-- The variable that stands in for the option of the ledger. -/
def ledgerVariable : String := "DATABASE_URL"

/-- An option, or the variable that stands in for it. -/
def optionOrVariable (found environment : Table String) (name standIn : String) : Table String :=
  match found.find? name, environment.find? standIn with
  | none, some value => found.insert name value
  | _, _ => found

/-- What words and variables ask for. -/
def Invocation.read (words : List String) (environment : Table String) :
    Except Refusal Invocation := do
  let (found, rest) ←
    options [.lettered "config" 'c', .lettered "database" 'd', .lettered "log-level" 'l'] [] words
  let command ← readCommand rest
  let found := optionOrVariable found environment "config" configurationVariable
  let found := optionOrVariable found environment "database" ledgerVariable
  return ⟨← optional found "config" path?, ← optional found "database" some, command⟩

end TradingDesk.CommandLine
