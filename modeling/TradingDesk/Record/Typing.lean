import TradingDesk.Binary64.Reading
import TradingDesk.Binary64.Shortest
import TradingDesk.Calendar.Instant
import TradingDesk.Json.Value
import TradingDesk.Text.Lowercase

/-!
# Reading Scalars

Single values are read in one of two ways.  Stored data and requests are typed strictly: a flag is
a boolean, a count is a whole number in range and a name is spelled exactly.  Settings are typed
loosely, because files and variables write the same setting in different forms: a number may be
written as text, a flag as a word, and names of choices are compared without case.

Decimals, dates and instants are read in the same way from both.
-/

namespace TradingDesk.Record

/-- How scalars are read: strictly from data or loosely from settings. -/
inductive Typing where
  | strict
  | loose
deriving DecidableEq, Repr

/-- A decimal: text in either form, a whole number, or the plain text of another number. -/
def decimal? : Json → Option Decimal
  | .str s => Decimal.parseAny? s
  | .int i => Decimal.ofInt? i
  | .real x => Decimal.parse? (Binary64.plainText x)
  | _ => none

/-- An instant written as text. -/
def instant? : Json → Option Instant
  | .str s => Instant.parse? s
  | _ => none

/-- A date written as text. -/
def date? : Json → Option Date
  | .str s => Date.parse? s
  | _ => none

/-- The truth value that a word of a setting stands for. -/
def wordFlag? (s : String) : Option Bool :=
  let word := Text.lowercase s
  if word ∈ ["true", "on", "yes"] then some true
  else if word ∈ ["false", "off", "no"] then some false
  else none

/-- A whole number written in decimal digits, with an optional plus sign. -/
def digitsNat? (s : String) : Option Nat :=
  let digits := match s.toList with
    | '+' :: rest => rest
    | cs => cs
  if digits.isEmpty || !digits.all Binary64.isDigit then none
  else some (Binary64.digitsValue digits)

/-- The nearest natural number, half away from zero; zero below and for no number. -/
def roundedNat (x : Float) : Nat :=
  if x.isNaN || x ≤ 0.0 then 0
  else if x.isInf then limit64 - 1
  else
    let parts := Binary64.decompose x.round
    Min.min (limit64 - 1)
      (parts.mantissa * twos parts.exponent.toNat / twos (-parts.exponent).toNat)

namespace Typing

/-- A flag. -/
def flag? (t : Typing) (j : Json) : Option Bool :=
  match t, j with
  | _, .bool b => some b
  | .strict, _ => none
  | .loose, .int i => some (i != 0)
  | .loose, .real x => some (x != 0.0)
  | .loose, .str s =>
    wordFlag? s <|> (if s = "1" then some true else if s = "0" then some false else none)
  | .loose, _ => none

/-- A natural number below a bound. -/
def nat? (t : Typing) (bound : Nat) (j : Json) : Option Nat :=
  let n : Option Nat :=
    match t, j with
    | _, .int i => if 0 ≤ i then some i.toNat else none
    | .strict, _ => none
    | .loose, .bool b => some b.toNat
    | .loose, .real x => some (roundedNat x)
    | .loose, .str s => (wordFlag? s).map Bool.toNat <|> digitsNat? s
    | .loose, _ => none
  n.filter fun n ↦ decide (n < bound)

/-- A floating-point number. -/
def float? (t : Typing) (j : Json) : Option Float :=
  match t, j with
  | _, .real x => some x
  | _, .int i => some (Binary64.ofDecimal (decide (i < 0)) i.natAbs 0)
  | .strict, _ => none
  | .loose, .bool b => some (if b then 1.0 else 0.0)
  | .loose, .str s =>
    (wordFlag? s).map (fun b ↦ if b then 1.0 else 0.0) <|> Binary64.parse? s
  | .loose, _ => none

/-- A text; settings also take the text of a flag or a number. -/
def text? (t : Typing) (j : Json) : Option String :=
  match t, j with
  | _, .str s => some s
  | .strict, _ => none
  | .loose, .bool b => some (if b then "true" else "false")
  | .loose, .int i => some (toString i)
  | .loose, .real x => some (Binary64.plainText x)
  | .loose, _ => none

/-- One of several named choices, by its name or as an object whose only field has that name. -/
def choice? {α : Type} (t : Typing) (choices : List (String × α)) (j : Json) : Option α :=
  let named (s : String) : Option α :=
    match t with
    | .strict => choices.lookup s
    | .loose =>
      (choices.find? fun c ↦ Text.lowercase c.1 == Text.lowercase s).map (·.2)
  match t, j with
  | _, .str s => named s
  | .strict, .obj [(name, .null)] => named name
  | .loose, .obj [(name, _)] => named name
  | _, _ => none

/-- A list of items. -/
def list? {α : Type} (item? : Json → Option α) : Json → Option (List α)
  | .arr items => items.mapM item?
  | _ => none

/-- A value that may be null. -/
def optional? {α : Type} (read? : Json → Option α) : Json → Option (Option α)
  | .null => some none
  | j => (read? j).map some

end Typing

end TradingDesk.Record
