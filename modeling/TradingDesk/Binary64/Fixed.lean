import TradingDesk.Binary64.Shortest
import TradingDesk.Rounding

/-!
# Fixed Places

A number is written with a given count of fraction digits by rounding its exact binary value, a
half going to the even neighbour.  The sign stays when all digits are zero.
-/

namespace TradingDesk.Binary64

/-- The text with exactly `places` fraction digits. -/
def fixedText (x : Float) (places : Nat) : String :=
  if x.isFinite then
    let parts := decompose x
    let scaled := parts.mantissa * twos parts.exponent.toNat * tens places
    let units := nearestEven scaled (twos (-parts.exponent).toNat)
    let digits := Nat.toDigits 10 units
    let padded := List.replicate (places + 1 - digits.length) '0' ++ digits
    let whole := padded.take (padded.length - places)
    let fraction := padded.drop (padded.length - places)
    String.ofList
      ((if parts.negative then ['-'] else []) ++ whole ++
        (if places = 0 then [] else '.' :: fraction))
  else special x

end TradingDesk.Binary64
