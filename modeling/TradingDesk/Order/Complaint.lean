import TradingDesk.Json.Writer
import TradingDesk.Order.Response

/-!
# Unreadable Responses

A response that cannot be read is answered by a complaint about its first fault.  The fields of an
object are looked at in the order of their names, unknown ones are passed over, and what is missing
comes last.  The items of an array stand for the fields in their order.
-/

namespace TradingDesk.Order

/-- What is wrong with a value. -/
inductive Complaint where
  | wrongType (given : Json) (expected : String)
  | wrongValue (given : Json) (expected : String)
  | wrongLength (given : Nat) (expected : String)
  | missing (field : String)
  | repeated (field : String)

namespace Complaint

/-- One character of a quoted text. -/
def quoteChar (c : Char) : List Char :=
  match c with
  | '"' => ['\\', '"']
  | '\\' => ['\\', '\\']
  | '\n' => ['\\', 'n']
  | '\r' => ['\\', 'r']
  | '\t' => ['\\', 't']
  | c =>
    if c.toNat = 0 then ['\\', '0']
    else if c.toNat < 32 ∨ c.toNat = 127 then
      ['\\', 'u', '\x7b'] ++ Nat.toDigits 16 c.toNat ++ ['\x7d']
    else [c]

/-- How a value is named. -/
def describe : Json → String
  | .null => "null"
  | .bool b => "boolean `" ++ (if b then "true" else "false") ++ "`"
  | .int i => "integer `" ++ toString i ++ "`"
  | .real x => "floating point `" ++ Binary64.dataText x ++ "`"
  | .str s => "string " ++ String.ofList ('"' :: (s.toList.flatMap quoteChar ++ ['"']))
  | .arr _ => "sequence"
  | .obj _ => "map"

/-- The text of a complaint. -/
def message : Complaint → String
  | wrongType given expected => "invalid type: " ++ describe given ++ ", expected " ++ expected
  | wrongValue given expected => "invalid value: " ++ describe given ++ ", expected " ++ expected
  | wrongLength given expected => "invalid length " ++ toString given ++ ", expected " ++ expected
  | missing field => "missing field `" ++ field ++ "`"
  | repeated field => "duplicate field `" ++ field ++ "`"

/-! ## Faults of values -/

/-- A rule that finds the first fault of a value, if there is one. -/
abbrev Check := Json → Option Complaint

/-- A text. -/
def text : Check
  | .str _ => none
  | j => some (.wrongType j "a string")

/-- What a decimal is expected to be. -/
def decimalForm : String :=
  "a Decimal type representing a fixed-point number"

/-- A decimal. -/
def decimal : Check := fun j ↦
  match Record.decimal? j, j with
  | some _, _ => none
  | none, .str _ | none, .real _ => some (.wrongValue j decimalForm)
  | none, _ => some (.wrongType j decimalForm)

/-- A value that may be null. -/
def orNull (check : Check) : Check
  | .null => none
  | j => check j

/-- A list of items. -/
def list (check : Check) : Check
  | .arr items => items.findSome? check
  | j => some (.wrongType j "a sequence")

/-- A field with its names, the first of which is the usual one. -/
structure Field where
  names : List String
  check : Check

/-- The usual name of a field. -/
def Field.name (f : Field) : String :=
  f.names.headD ""

/-- The first fault among named values, given the names that were seen. -/
def namedFault (fields : List Field) : List String → List (String × Json) → Option Complaint
  | _, [] => none
  | seen, (name, value) :: rest =>
    match fields.find? (·.names.contains name) with
    | none => namedFault fields seen rest
    | some f =>
      if seen.contains f.name then some (.repeated f.name)
      else (f.check value).or (namedFault fields (f.name :: seen) rest)

/-- The first fault among items that stand for fields. -/
def positionalFault (fields : List Field) (items : List Json) : Option Complaint :=
  ((fields.zip items).findSome? fun (f, j) ↦ f.check j).or <|
    if fields.length < items.length then
      some (.wrongLength items.length "fewer elements in array")
    else none

/-- A structure, of which the named fields have to be there. -/
def struct (name : String) (fields : List Field) (needed : List String) : Check
  | .obj pairs =>
    let sorted := pairs.mergeSort fun a b ↦ decide (a.1 ≤ b.1)
    (namedFault fields [] sorted).or <|
      (needed.find? fun name ↦ !pairs.any (·.1 == name)).map .missing
  | .arr items =>
    if items.length < needed.length then
      some (.wrongLength items.length
        ("struct " ++ name ++ " with " ++ toString fields.length ++ " elements"))
    else positionalFault fields items
  | j => some (.wrongType j ("struct " ++ name))

/-- A fill. -/
def fill : Check :=
  struct "Fill" [⟨["price"], decimal⟩, ⟨["quantity", "size", "qty"], decimal⟩] ["price"]

/-- A response. -/
def response : Check :=
  let words (name : String) : Field := ⟨[name], orNull text⟩
  let amount (name : String) : Field := ⟨[name], orNull decimal⟩
  struct "OrderResponse"
    [words "status", words "order_id", words "id", ⟨["txid"], list text⟩, words "error",
      words "symbol", amount "filled_volume", amount "average_filled_price",
      amount "filled_price", amount "price", ⟨["fills"], list fill⟩, words "timestamp"]
    []

end Complaint

/-- Reads a response, or says why it cannot be read. -/
def Response.read (j : Json) : Except String Response :=
  match Response.ofJson? j with
  | some r => .ok r
  | none => .error (((Complaint.response j).map Complaint.message).getD "unreadable response")

end TradingDesk.Order
