import TradingDesk.Binary64.Basic
import TradingDesk.Decimal.Text

/-!
# Decimals and Floating Point

A decimal becomes a floating-point number by adding its whole part and its fraction, each converted
on its own, and rounding the sum back to the digits of the scale.  A floating-point number becomes
a decimal from its exact binary value: factors of two are traded for factors of ten while 96 bits
last, digits beyond 28 places and then beyond 52 bits are rounded off one by one, and trailing
fraction zeros are dropped.  Numbers that are not finite or too large have no decimal.
-/

namespace TradingDesk.Decimal

/-! ## To floating point -/

/-- A floating-point power by repeated squaring. -/
def powerBySquaring (base acc : Float) (n : Nat) : Float :=
  if n = 0 then acc
  else powerBySquaring (base * base) (if n % 2 = 1 then acc * base else acc) (n / 2)
termination_by n
decreasing_by omega

/-- The floating-point value without the sign. -/
def magnitudeFloat (mantissa scale : Nat) : Float :=
  let whole := mantissa / tens scale
  let fraction := mantissa % tens scale
  if scale = 0 ∨ fraction = 0 then Binary64.ofNat whole
  else
    let value :=
      Binary64.ofNat whole + Binary64.ofNat fraction / Binary64.ofNat (tens scale)
    let power := powerBySquaring 10.0 1.0 scale
    (value * power).round / power

/-- The floating-point value. -/
def toFloat (d : Decimal) : Float :=
  if d.negative then -(magnitudeFloat d.mantissa d.scale) else magnitudeFloat d.mantissa d.scale

/-! ## From floating point -/

/-- A number `mantissa * 10 ^ exponent` with pending factors of two. -/
structure Scaled where
  mantissa : Nat
  exponent : Int

/-- Trades `count` halvings for tenths. -/
def Scaled.halvings (s : Scaled) : (count : Nat) → Scaled
  | 0 => s
  | count + 1 =>
    if s.mantissa % 2 = 1 ∧ s.mantissa * 5 < limit96 then
      Scaled.halvings ⟨s.mantissa * 5, s.exponent⟩ count
    else
      Scaled.halvings ⟨s.mantissa / 2, s.exponent + 1⟩ count

/-- Trades `count` doublings for tens. -/
def Scaled.doublings? (s : Scaled) : (count : Nat) → Option Scaled
  | 0 => some s
  | count + 1 =>
    if s.mantissa * 2 < limit96 then Scaled.doublings? ⟨s.mantissa * 2, s.exponent - 1⟩ count
    else if (count : Int) + 1 < 2 * s.exponent then none
    else Scaled.doublings? ⟨s.mantissa / 5, s.exponent⟩ count

/-- Multiplies the remaining `count` tens into the mantissa. -/
def raiseTens? (mantissa : Nat) : (count : Nat) → Option Nat
  | 0 => some mantissa
  | count + 1 => if mantissa * 10 < limit96 then raiseTens? (mantissa * 10) count else none

/-- The mantissa without its last digit, a five going up. -/
def dropHalfUp (mantissa : Nat) : Nat :=
  mantissa / 10 + (if 5 ≤ mantissa % 10 then 1 else 0)

/-- Rounds `count` digits off; nothing is left of a mantissa that runs out of digits. -/
def dropExcess (mantissa scale : Nat) : (count : Nat) → Nat × Nat
  | 0 => (mantissa, scale)
  | count + 1 =>
    if mantissa / 10 = 0 then (0, 0) else dropExcess (dropHalfUp mantissa) (scale - 1) count

/-- Rounds fraction digits off while the mantissa has more than 52 bits. -/
def dropToPrecision (mantissa : Nat) : (scale : Nat) → Nat × Nat
  | 0 => (mantissa, 0)
  | scale + 1 =>
    if 4503599627370496 ≤ mantissa then dropToPrecision (dropHalfUp mantissa) scale
    else (mantissa, scale + 1)

/-- The decimal closest to a floating-point number in at most 52 bits. -/
def ofFloat? (x : Float) : Option Decimal :=
  if !x.isFinite then none
  else do
    let parts := Binary64.decompose x
    let start : Scaled := ⟨parts.mantissa, parts.exponent⟩
    let scaled ←
      if parts.exponent < 0 then some (start.halvings (-parts.exponent).toNat)
      else start.doublings? parts.exponent.toNat
    if 0 ≤ scaled.exponent then
      let mantissa ← raiseTens? scaled.mantissa scaled.exponent.toNat
      make? parts.negative mantissa 0
    else
      let scale := (-scaled.exponent).toNat
      let (m, s) := dropExcess scaled.mantissa scale (scale - 28)
      let (m, s) := dropToPrecision m s
      let (m, s) := stripZeros m s
      make? parts.negative m s

end TradingDesk.Decimal
