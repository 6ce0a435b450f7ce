import TradingDesk.Binary64.Basic
import TradingDesk.Decimal.Text

/-!
# Reading Floating-Point Text

A decimal literal denotes the closest floating-point number.  The exponent is cut to a range in
which every nonzero literal is decided already, so that a long exponent costs no computation.
`parse?` reads the plain form of a number that settings and variables use: an optional sign, digits
with an optional point and exponent, or a name of an infinity or of the value that is none.
-/

namespace TradingDesk.Binary64

/-- The number closest to `± mantissa * 10 ^ exponent`. -/
def ofDecimal (negative : Bool) (mantissa : Nat) (exponent : Int) : Float :=
  let magnitude :=
    if mantissa = 0 then 0.0
    else
      let length : Int := (Nat.toDigits 10 mantissa).length
      if 400 < exponent + length then infinity
      else if exponent + length < -400 then 0.0
      else if 0 ≤ exponent then Float.ofScientific mantissa false exponent.toNat
      else Float.ofScientific mantissa true (-exponent).toNat
  if negative then -magnitude else magnitude

/-- The number that a run of digits denotes. -/
def digitsValue (cs : List Char) : Nat :=
  cs.foldl (fun n c ↦ n * 10 + (Decimal.digit? c).getD 0) 0

/-- Whether a character is a decimal digit. -/
def isDigit (c : Char) : Bool :=
  (Decimal.digit? c).isSome

/-- Reads an exponent with its mark; nothing is exponent zero. -/
def exponent? : List Char → Option Int
  | [] => some 0
  | mark :: rest =>
    if Decimal.isExponentMark mark then
      let (negative, digits) := Decimal.splitSign rest
      if digits.isEmpty || !digits.all isDigit then none
      else some (if negative then -(digitsValue digits : Int) else digitsValue digits)
    else none

/-- Reads digits with an optional point and exponent. -/
def parseUnsigned? (negative : Bool) (cs : List Char) : Option Float :=
  let whole := cs.takeWhile isDigit
  let rest := cs.dropWhile isDigit
  let (fraction, rest) := match rest with
    | '.' :: tail => (tail.takeWhile isDigit, tail.dropWhile isDigit)
    | rest => ([], rest)
  if whole.isEmpty && fraction.isEmpty then none
  else
    (exponent? rest).map fun e ↦
      ofDecimal negative (digitsValue (whole ++ fraction)) (e - fraction.length)

/-- Reads a number or one of the names for the values that are not finite. -/
def parse? (s : String) : Option Float :=
  let (negative, cs) := Decimal.splitSign s.toList
  let word := String.ofList (cs.map Char.toLower)
  if word = "inf" ∨ word = "infinity" then some (if negative then -infinity else infinity)
  else if word = "nan" then some nan
  else parseUnsigned? negative cs

end TradingDesk.Binary64
