import TradingDesk.Power

/-!
# Binary Floating Point

Ratios, indicators and statistics are IEEE-754 double precision numbers.  A finite one is a sign, a
mantissa of at most 53 bits and a binary exponent, and `decompose` reads these three from the bits.
The extrema `max` and `min` ignore an operand that is not a number, and `clamp` requires ordered
bounds: without them it has no result.

Sums start from negative zero, the neutral element of floating-point addition, and run left to
right.
-/

namespace TradingDesk.Binary64

/-- A finite number is `± mantissa * 2 ^ exponent`. -/
structure Parts where
  negative : Bool
  mantissa : Nat
  exponent : Int
deriving DecidableEq, Repr

/-- Whether the sign bit is set. -/
def isNegative (x : Float) : Bool :=
  x.toBits >>> 63 == 1

/-- Sign, mantissa and exponent; meaningful for finite numbers. -/
def decompose (x : Float) : Parts :=
  let bits := x.toBits.toNat
  let biased : Nat := bits / 4503599627370496 % 2048
  let fraction : Nat := bits % 4503599627370496
  if biased = 0 then ⟨isNegative x, fraction, -1074⟩
  else ⟨isNegative x, fraction + 4503599627370496, (biased : Int) - 1075⟩

/-- The larger operand, or the other one when an operand is not a number. -/
def max (x y : Float) : Float :=
  if x.isNaN then y else if y.isNaN then x else if x < y then y else x

/-- The smaller operand, or the other one when an operand is not a number. -/
def min (x y : Float) : Float :=
  if x.isNaN then y else if y.isNaN then x else if y < x then y else x

/-- The number limited to an interval; none when the bounds are not ordered. -/
def clamp? (x low high : Float) : Option Float :=
  if low ≤ high then
    some (if x < low then low else if high < x then high else x)
  else
    none

/-- The sum from negative zero, left to right. -/
def sum (xs : List Float) : Float :=
  xs.foldl (· + ·) (-0.0)

/-- The number as a natural, correctly rounded. -/
def ofNat (n : Nat) : Float :=
  Float.ofScientific n false 0

/-- The infinities and the number that is none. -/
def infinity : Float := 1.0 / 0.0

/-- The value of an undefined operation. -/
def nan : Float := 0.0 / 0.0

/-- The sixteen hexadecimal digits of the bits. -/
def hexDigits (x : Float) : String :=
  let digits := Nat.toDigits 16 x.toBits.toNat
  String.ofList (List.replicate (16 - digits.length) '0' ++ digits)

end TradingDesk.Binary64
