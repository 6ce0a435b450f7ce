import TradingDesk.Binary64.Reading
import TradingDesk.Json.Value

/-!
# Reading Data Values

A text holds exactly one value, with blanks around its tokens, and arrays and objects nest fewer
than 128 levels deep.  A number without fraction and exponent is whole when it fits 64 bits with or
without a sign, and negative zero is not; every other number is the closest floating-point number,
and one beyond their range is refused.  In a string a control character has to be escaped, and
escaped surrogates have to come in pairs.

Every reading function takes characters and gives the value and the rest.  The recursion is bounded
by a count that exceeds the number of steps a text of its length can take.
-/

namespace TradingDesk.Json

/-- Blanks between tokens. -/
def isSpace (c : Char) : Bool :=
  c == ' ' || c == '\n' || c == '\r' || c == '\t'

/-- The characters after leading blanks. -/
def skipSpace (cs : List Char) : List Char :=
  cs.dropWhile isSpace

/-! ## Strings -/

/-- The value of a hexadecimal digit. -/
def hexValue? (c : Char) : Option Nat :=
  if '0' ≤ c ∧ c ≤ '9' then some (c.toNat - 48)
  else if 'a' ≤ c ∧ c ≤ 'f' then some (c.toNat - 87)
  else if 'A' ≤ c ∧ c ≤ 'F' then some (c.toNat - 55)
  else none

/-- Reads four hexadecimal digits. -/
def hexQuad? : List Char → Option (Nat × List Char)
  | a :: b :: c :: d :: rest => do
    let a ← hexValue? a
    let b ← hexValue? b
    let c ← hexValue? c
    let d ← hexValue? d
    some (((a * 16 + b) * 16 + c) * 16 + d, rest)
  | _ => none

/-- Reads the rest of an escaped code unit, with its partner when it is a leading surrogate. -/
def unicodeEscape? (cs : List Char) : Option (Char × List Char) := do
  let (unit, rest) ← hexQuad? cs
  if 0xD800 ≤ unit ∧ unit < 0xDC00 then
    match rest with
    | '\\' :: 'u' :: rest => do
      let (low, rest) ← hexQuad? rest
      if 0xDC00 ≤ low ∧ low < 0xE000 then
        some (Char.ofNat (0x10000 + (unit - 0xD800) * 0x400 + (low - 0xDC00)), rest)
      else none
    | _ => none
  else if 0xDC00 ≤ unit ∧ unit < 0xE000 then none
  else some (Char.ofNat unit, rest)

/-- Reads the part of an escape after the backslash. -/
def escape? : List Char → Option (Char × List Char)
  | '"' :: rest => some ('"', rest)
  | '\\' :: rest => some ('\\', rest)
  | '/' :: rest => some ('/', rest)
  | 'b' :: rest => some (Char.ofNat 8, rest)
  | 'f' :: rest => some (Char.ofNat 12, rest)
  | 'n' :: rest => some ('\n', rest)
  | 'r' :: rest => some ('\r', rest)
  | 't' :: rest => some ('\t', rest)
  | 'u' :: rest => unicodeEscape? rest
  | _ => none

/-- Reads the characters of a string up to its closing quote. -/
def stringBody? : (fuel : Nat) → List Char → Option (List Char × List Char)
  | 0, _ => none
  | _ + 1, [] => none
  | fuel + 1, c :: rest =>
    if c = '"' then some ([], rest)
    else if c = '\\' then do
      let (c, rest) ← escape? rest
      let (cs, rest) ← stringBody? fuel rest
      some (c :: cs, rest)
    else if c.toNat < 32 then none
    else do
      let (cs, rest) ← stringBody? fuel rest
      some (c :: cs, rest)

/-- Reads a string after its opening quote. -/
def string? (fuel : Nat) (cs : List Char) : Option (String × List Char) := do
  let (body, rest) ← stringBody? fuel cs
  some (String.ofList body, rest)

/-! ## Numbers -/

/-- Reads the digits after a point, when there is one. -/
def fraction? : List Char → Option (List Char × List Char)
  | '.' :: rest =>
    let digits := rest.takeWhile Binary64.isDigit
    if digits.isEmpty then none else some (digits, rest.dropWhile Binary64.isDigit)
  | rest => some ([], rest)

/-- Reads an exponent, when there is one. -/
def exponent? : List Char → Option (Option Int × List Char)
  | mark :: rest =>
    if Decimal.isExponentMark mark then
      let (negative, rest) := Decimal.splitSign rest
      let digits := rest.takeWhile Binary64.isDigit
      if digits.isEmpty then none
      else
        let n : Int := Binary64.digitsValue digits
        some (some (if negative then -n else n), rest.dropWhile Binary64.isDigit)
    else some (none, mark :: rest)
  | [] => some (none, [])

/-- The number of a sign, whole digits, fraction digits and an exponent. -/
def number? (negative : Bool) (whole fraction : List Char) (exponent : Option Int) : Option Json :=
  let n := Binary64.digitsValue whole
  let signed : Int := if negative then -n else n
  let isWhole := fraction.isEmpty && exponent.isNone && !(negative && n == 0)
  if isWhole && (isWord signed || decide (0 ≤ signed ∧ signed < limit64)) then some (.int signed)
  else
    let x := Binary64.ofDecimal negative (Binary64.digitsValue (whole ++ fraction))
      (exponent.getD 0 - fraction.length)
    if x.isFinite then some (.real x) else none

/-- Reads a number after its sign. -/
def unsignedNumber? (negative : Bool) (cs : List Char) : Option (Json × List Char) := do
  let whole := cs.takeWhile Binary64.isDigit
  if whole.isEmpty || (whole.length != 1 && whole.head? == some '0') then none
  else do
    let (fraction, rest) ← fraction? (cs.dropWhile Binary64.isDigit)
    let (exponent, rest) ← exponent? rest
    let value ← number? negative whole fraction exponent
    some (value, rest)

/-! ## Values -/

/-- Takes one given character after blanks. -/
def expect? (c : Char) (cs : List Char) : Option (List Char) :=
  match skipSpace cs with
  | [] => none
  | x :: rest => if x = c then some rest else none

mutual

/-- Reads a value; `depth` is the number of levels that may still open. -/
def value? : (fuel : Nat) → (depth : Nat) → List Char → Option (Json × List Char)
  | 0, _, _ => none
  | fuel + 1, depth, cs =>
    match skipSpace cs with
    | 'n' :: 'u' :: 'l' :: 'l' :: rest => some (.null, rest)
    | 't' :: 'r' :: 'u' :: 'e' :: rest => some (.bool true, rest)
    | 'f' :: 'a' :: 'l' :: 's' :: 'e' :: rest => some (.bool false, rest)
    | '"' :: rest => (string? fuel rest).map fun (s, rest) ↦ (.str s, rest)
    | '-' :: rest => unsignedNumber? true rest
    | '[' :: rest =>
      if depth = 0 then none
      else match expect? ']' rest with
        | some rest => some (.arr [], rest)
        | none => (elements? fuel (depth - 1) rest).map fun (items, rest) ↦ (.arr items, rest)
    | '\x7b' :: rest =>
      if depth = 0 then none
      else match expect? '\x7d' rest with
        | some rest => some (.obj [], rest)
        | none => (members? fuel (depth - 1) rest).map fun (fields, rest) ↦ (.obj fields, rest)
    | cs => unsignedNumber? false cs

/-- Reads the items of an array up to its closing bracket. -/
def elements? : (fuel : Nat) → (depth : Nat) → List Char → Option (List Json × List Char)
  | 0, _, _ => none
  | fuel + 1, depth, cs => do
    let (item, rest) ← value? fuel depth cs
    match expect? ',' rest with
    | some rest => do
      let (items, rest) ← elements? fuel depth rest
      some (item :: items, rest)
    | none => do
      let rest ← expect? ']' rest
      some ([item], rest)

/-- Reads the fields of an object up to its closing brace. -/
def members? : (fuel : Nat) → (depth : Nat) → List Char → Option (List (String × Json) × List Char)
  | 0, _, _ => none
  | fuel + 1, depth, cs => do
    let rest ← expect? '"' cs
    let (name, rest) ← string? fuel rest
    let rest ← expect? ':' rest
    let (value, rest) ← value? fuel depth rest
    match expect? ',' rest with
    | some rest => do
      let (fields, rest) ← members? fuel depth rest
      some ((name, value) :: fields, rest)
    | none => do
      let rest ← expect? '\x7d' rest
      some ([(name, value)], rest)

end

/-- The levels of nesting that a text may open. -/
def maxDepth : Nat := 127

/-- Reads the one value that the characters hold. -/
def parseChars? (cs : List Char) : Option Json := do
  let (value, rest) ← value? (2 * cs.length + 2) maxDepth cs
  if (skipSpace rest).isEmpty then some value else none

/-- Reads the one value that a text holds. -/
def parse? (s : String) : Option Json :=
  parseChars? s.toList

end TradingDesk.Json
