import Std.Time.DateTime
import TradingDesk.CommandLine.Program

/-!
# Main Program

The program runs its words over the files, the variables and the clock of the system, and prints
what they come to.
-/

namespace TradingDesk.CommandLine

/-- Whether an effect comes to an end without an error. -/
def succeeds (effect : IO Unit) : IO Bool := do
  try
    effect
    return true
  catch _ =>
    return false

/-- The files of the system. -/
def systemFiles : Files IO where
  read path := do
    try
      return some (← IO.FS.readFile path)
    catch _ =>
      return none
  write path content := succeeds (IO.FS.writeFile path content)
  remove path := succeeds (IO.FS.removeFile path)
  makeFolder path := succeeds (IO.FS.createDirAll path)

/-- The variables of the system that the program knows. -/
def systemVariables : IO (Table String) := do
  let names := configurationVariable :: ledgerVariable :: Configuration.variableNames
  names.filterMapM fun name ↦ return (← IO.getEnv name).map (name, ·)

/-- The present time. -/
def systemInstant : IO Instant := do
  let nanos := (← Std.Time.Timestamp.now).toNanosecondsSinceUnixEpoch.val
  return (⟨nanos / 1000000000, (nanos % 1000000000).toNat⟩ : Instant)

end TradingDesk.CommandLine

open TradingDesk.CommandLine in
/-- Carries out a command line and exits with its code. -/
def main (words : List String) : IO UInt32 := do
  let outcome ← run systemFiles (← systemVariables) (← systemInstant) words
  for line in outcome.output do
    IO.println line
  if let some message := outcome.error then
    IO.eprintln ("Error: " ++ message)
  if outcome.code = 2 then
    IO.eprintln usage
  return UInt32.ofNat outcome.code
