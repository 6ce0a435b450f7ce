import TradingDesk.Configuration.Layer
import TradingDesk.Text.Lowercase

/-!
# Configuration Variables

A variable of the environment sets one value of the configuration when its name starts with the name
of the program.  Two underscores divide the names on the way to the value, and case does not matter.
The text of a variable is a truth value, a whole number or another number when it looks like one,
and lists of symbols are divided by commas.
-/

namespace TradingDesk.Configuration.Variable

/-- How the names of variables start. -/
def mark : String := "cryptotrader__"

/-- The names whose texts are lists. -/
def listNames : List String :=
  ["bot.symbols", "paper.symbols", "rest.symbols"]

/-- Replaces every two underscores by a point. -/
def dotted : List Char → List Char
  | '_' :: '_' :: rest => '.' :: dotted rest
  | c :: rest => c :: dotted rest
  | [] => []

/-- The name of the value that a variable sets, if it sets one. -/
def target? (name : String) : Option String :=
  let cs := (Text.lowercase name).toList
  let start := mark.toList
  if start.isPrefixOf cs then some (String.ofList (dotted (cs.drop start.length))) else none

/-- A whole number of 64 bits with an optional sign. -/
def whole? (s : String) : Option Int :=
  let (negative, digits) := Decimal.splitSign s.toList
  if digits.isEmpty || !digits.all Binary64.isDigit then none
  else
    let n : Int := Binary64.digitsValue digits
    let i := if negative then -n else n
    if isWord i then some i else none

/-- Divides a text at every comma. -/
def divide (s : String) : List String :=
  s.splitOn ","

/-- The value that a text stands for. -/
def value (target text : String) : Json :=
  let word := Text.lowercase text
  if word = "true" then .bool true
  else if word = "false" then .bool false
  else match whole? text, Binary64.parse? text with
    | some i, _ => .int i
    | none, some x => .real x
    | none, none =>
      if target ∈ listNames then Json.ofList Json.str (divide text) else .str text

/-- The layer of the variables, in the order of their names. -/
def layer (environment : List (String × String)) : List (String × Json) :=
  let settings := environment.filterMap fun (name, text) ↦
    (target? name).map fun target ↦ (target, value target text)
  settings.mergeSort fun a b ↦ decide (a.1 ≤ b.1)

end TradingDesk.Configuration.Variable
