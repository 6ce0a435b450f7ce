import TradingDesk.Calendar.Date

/-!
# Drawn Identifiers

The desk names its own trades and simulated orders by serial numbers, so that no two draws of one
counter agree.  The text of a serial number has the usual form of a random identifier: groups of 8,
4, 4, 4 and 12 hexadecimal digits.
-/

namespace TradingDesk.Identifier

/-- A natural number in at least `width` hexadecimal digits. -/
def hex (width n : Nat) : String :=
  let digits := Nat.toDigits 16 n
  String.ofList (List.replicate (width - digits.length) '0' ++ digits)

/-- The text of a serial number. -/
def text (serial : Nat) : String :=
  "00000000-0000-4000-8000-" ++ hex 12 serial

/-- Whether a text has the form of a drawn identifier. -/
def isDrawn (s : String) : Bool :=
  let cs := s.toList
  cs.length == 36 &&
    (cs.zipIdx.all fun (c, i) ↦
      if i = 8 ∨ i = 13 ∨ i = 18 ∨ i = 23 then c == '-'
      else c.isDigit || ('a' ≤ c && c ≤ 'f'))

end TradingDesk.Identifier
