import TradingDesk.Binary64.Basic

/-!
# Shortest Decimal Form

A positive finite number is written with the fewest digits that read back as itself.  The reals
that round to the number form an interval around it, whose ends belong to it exactly when the
mantissa is even.  For one, two, up to seventeen digits the two neighbours of the number on that
decimal grid are tested against the interval in exact arithmetic: the first grid with a hit gives
the digits, and of two hits the nearer one.

Two layouts use these digits: plain text never has an exponent and drops an empty fraction, and
data text keeps one fraction digit and takes an exponent from 16 digits up and below `0.00001`.
Between two hits at the same distance plain text takes the greater and data text the even one.
-/

namespace TradingDesk.Binary64

/-- A decimal number `digits * 10 ^ exponent`. -/
structure Digits where
  digits : Nat
  exponent : Int
deriving DecidableEq, Repr

/-- Which of two neighbours at the same distance is taken. -/
inductive Tie where
  | upper
  | even
deriving DecidableEq, Repr

/-- Whether the lower of two neighbours is taken, whose distances add up to `step`. -/
def Tie.takesLower (tie : Tie) (lower distance step : Nat) : Bool :=
  decide (2 * distance < step) || (2 * distance == step && tie == even && lower % 2 == 0)

/-- The reals that round to one number, over a common denominator. -/
structure Interval where
  low : Nat
  value : Nat
  high : Nat
  denominator : Nat
  closed : Bool

/-- The interval of `mantissa * 2 ^ exponent`.  Below a power of two the spacing is halved. -/
def Interval.ofParts (mantissa : Nat) (exponent : Int) : Interval :=
  let unit := twos exponent.toNat
  let below := if mantissa = 4503599627370496 ∧ -1074 < exponent then 1 else 2
  { low := (4 * mantissa - below) * unit
    value := 4 * mantissa * unit
    high := (4 * mantissa + 2) * unit
    denominator := 4 * twos (-exponent).toNat
    closed := mantissa % 2 == 0 }

/-- Whether `n / (denominator * 10 ^ shift)` lies in the interval, all over one denominator. -/
def Interval.contains (i : Interval) (n shift : Nat) : Bool :=
  let low := i.low * tens shift
  let high := i.high * tens shift
  if i.closed then decide (low ≤ n ∧ n ≤ high) else decide (low < n ∧ n < high)

/-- The neighbour of the number on the grid `10 ^ exponent` that reads back, if there is one. -/
def Interval.hit? (i : Interval) (tie : Tie) (exponent : Int) : Option Digits :=
  let up := tens exponent.toNat
  let shift := (-exponent).toNat
  let value := i.value * tens shift
  let step := i.denominator * up
  let below := value / step
  let lowHit := i.contains (below * step) shift
  let highHit := i.contains ((below + 1) * step) shift
  if lowHit && highHit then
    some ⟨if tie.takesLower below (value % step) step then below else below + 1, exponent⟩
  else if lowHit then some ⟨below, exponent⟩
  else if highHit then some ⟨below + 1, exponent⟩
  else none

/-- The decimal exponent of the leading digit of `n / d`. -/
def leadingExponent (n d : Nat) : Int :=
  if d ≤ n then ((Nat.toDigits 10 (n / d)).length : Int) - 1
  else
    let length := (Nat.toDigits 10 (d / n)).length
    if d ≤ n * tens (length - 1) then -((length : Int) - 1) else -(length : Int)

/-- Tests the grids from the coarsest on. -/
def Interval.search (i : Interval) (tie : Tie) (leading : Int) :
    (count : Nat) → (digits : Nat) → Digits
  | 0, _ => ⟨0, 0⟩
  | count + 1, digits =>
    match i.hit? tie (leading + 1 - digits) with
    | some d => d
    | none => i.search tie leading count (digits + 1)

/-- Removes trailing zeros from the digits, raising the exponent; at most `count` of them. -/
def Digits.trim (d : Digits) : (count : Nat) → Digits
  | 0 => d
  | count + 1 =>
    if d.digits ≠ 0 ∧ d.digits % 10 = 0 then
      Digits.trim ⟨d.digits / 10, d.exponent + 1⟩ count
    else d

/-- The fewest digits that read back as a positive finite number. -/
def shortest (tie : Tie) (x : Float) : Digits :=
  let parts := decompose x
  let interval := Interval.ofParts parts.mantissa parts.exponent
  let leading := leadingExponent interval.value interval.denominator
  (interval.search tie leading 18 1).trim 400

/-- The digits with a point so that `exponent` powers of ten follow the last digit. -/
def Digits.positional (d : Digits) : List Char × List Char :=
  let digits := Nat.toDigits 10 d.digits
  if 0 ≤ d.exponent then (digits ++ List.replicate d.exponent.toNat '0', [])
  else
    let places := (-d.exponent).toNat
    let padded := List.replicate (places + 1 - digits.length) '0' ++ digits
    (padded.take (padded.length - places), padded.drop (padded.length - places))

/-- The text of a number that is not finite. -/
def special (x : Float) : String :=
  if x.isNaN then "NaN" else if isNegative x then "-inf" else "inf"

/-- Plain text: all zeros are written out, and an empty fraction is left out. -/
def plainText (x : Float) : String :=
  if x.isFinite then
    let sign := if isNegative x then ['-'] else []
    let (whole, fraction) :=
      if x == 0.0 then (['0'], []) else (shortest .upper x.abs).positional
    String.ofList (sign ++ whole ++ (if fraction.isEmpty then [] else '.' :: fraction))
  else special x

/-- Data text: a fraction digit is always present in positional form, and very large or small
numbers take an exponent.  A number that is not finite is `null`. -/
def dataText (x : Float) : String :=
  if x.isFinite then
    let sign := if isNegative x then "-" else ""
    if x == 0.0 then sign ++ "0.0"
    else
      let d := shortest .even x.abs
      let digits := Nat.toDigits 10 d.digits
      let point := (digits.length : Int) + d.exponent
      if -5 < point ∧ point ≤ 16 then
        let (whole, fraction) := d.positional
        sign ++ String.ofList whole ++ "." ++
          (if fraction.isEmpty then "0" else String.ofList fraction)
      else
        let tail := digits.drop 1
        sign ++ String.ofList (digits.take 1) ++
          (if tail.isEmpty then "" else "." ++ String.ofList tail) ++
          "e" ++ toString (point - 1)
  else "null"

end TradingDesk.Binary64
