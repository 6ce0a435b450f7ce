import TradingDesk.Configuration.Basic
import TradingDesk.Configuration.Variable

/-!
# Loading a Configuration

The usual configuration is overridden by a file and the file by variables.  Loading fails when a
file that is asked for cannot be read, and when a value does not fit its setting.
-/

namespace TradingDesk.Configuration

/-- Why there is no configuration. -/
inductive Error where
  | unreadable
  | invalid
deriving DecidableEq, Repr

/-- The text of a failure. -/
def Error.message : Error → String
  | unreadable => "Failed to load configuration"
  | invalid => "Invalid configuration"

/-- Where the settings of a file come from. -/
inductive Source where
  | absent
  | unreadable
  | file (format : Layer.Format) (content : String)

/-- The layer of a source. -/
def Source.layer : Source → Except Error (List (String × Json))
  | absent => .ok []
  | unreadable => .error .unreadable
  | file format content =>
    match Layer.parse? format content with
    | some layer => .ok layer
    | none => .error .unreadable

/-- Loads a configuration from a file and variables. -/
def load (source : Source) (environment : List (String × String)) : Except Error Configuration := do
  let file ← source.layer
  let settings := Layer.apply (Layer.apply standard.toJson file) (Variable.layer environment)
  match ofJson? .loose settings with
  | some c => .ok c
  | none => .error .invalid

/-! ## Names of variables -/

mutual

/-- The names of variables for the values of a table, with two underscores between their parts. -/
def leaves (name : String) : Json → List String
  | .obj fields => fieldLeaves name fields
  | _ => [name]

/-- The names of variables for named values. -/
def fieldLeaves (name : String) : List (String × Json) → List String
  | [] => []
  | (part, value) :: rest => leaves (name ++ "__" ++ part) value ++ fieldLeaves name rest

end

/-- The names of the variables that set the values of a configuration. -/
def variableNames : List String :=
  (leaves "cryptotrader" standard.toJson).map String.toUpper

end TradingDesk.Configuration
