import TradingDesk.Decimal.Arithmetic

/-!
# Decimal Text

Writing puts every fraction digit of the scale, or exactly as many as asked for, truncating or
padding with zeros.  Reading takes an optional sign and digits with at most one point, and allows
an underscore anywhere after the first digit.  A fraction too long for the type is rounded on its
first surplus digit alone, a five going up, and an integer part too large is refused.

`parse?` reads this positional form, and `parseAny?` falls back to a power of ten after the letter
e, whose exponent has at most two significant digits: it is at most 28 in size.
-/

namespace TradingDesk.Decimal

/-! ## Writing -/

/-- The decimal digits of the mantissa, with enough leading zeros to leave one before the point. -/
def paddedDigits (mantissa scale : Nat) : List Char :=
  let digits := Nat.toDigits 10 mantissa
  List.replicate (scale + 1 - digits.length) '0' ++ digits

/-- The digits before the point. -/
def wholeDigits (d : Decimal) : List Char :=
  let digits := paddedDigits d.mantissa d.scale
  digits.take (digits.length - d.scale)

/-- The digits after the point, as many as the scale. -/
def fractionDigits (d : Decimal) : List Char :=
  let digits := paddedDigits d.mantissa d.scale
  digits.drop (digits.length - d.scale)

/-- A number written from its sign, its whole digits and its fraction digits. -/
def assemble (negative : Bool) (whole fraction : List Char) : List Char :=
  (if negative then ['-'] else []) ++ whole ++
    (if fraction.isEmpty then [] else '.' :: fraction)

/-- The exact text, with all digits of the scale. -/
def render (d : Decimal) : String :=
  String.ofList (assemble d.negative d.wholeDigits d.fractionDigits)

instance : ToString Decimal := ⟨render⟩

/-- The text with exactly `places` fraction digits: surplus digits are cut off, and the sign stays
even when all remaining digits are zero. -/
def renderFixed (d : Decimal) (places : Nat) : String :=
  let fraction := d.fractionDigits.take places
  String.ofList <|
    assemble d.negative d.wholeDigits
      (fraction ++ List.replicate (places - fraction.length) '0')

/-! ## Reading -/

/-- The value of a decimal digit. -/
def digit? (c : Char) : Option Nat :=
  if '0' ≤ c ∧ c ≤ '9' then some (c.toNat - '0'.toNat) else none

/-- A full mantissa is rounded on the next character; the rest has to be digits or underscores.
When the rounded mantissa is out of range, its last digit is dropped, which needs a fraction. -/
def roundOnNext? (mantissa scale : Nat) (next : Char) (rest : List Char) : Option (Nat × Nat) :=
  let digit := if next = '_' then some 0 else digit? next
  match digit with
  | none => none
  | some n =>
    if rest.all (fun c ↦ c == '_' || (digit? c).isSome) then
      if n < 5 then some (mantissa, scale)
      else if mantissa + 1 < limit96 then some (mantissa + 1, scale)
      else if scale = 0 then none
      else some ((mantissa + 5) / 10, scale - 1)
    else none

/-- Fraction digits are taken while the mantissa and the scale have room. -/
def readFraction? (mantissa scale : Nat) : List Char → Option (Nat × Nat)
  | [] => some (mantissa, scale)
  | c :: rest =>
    if scale = 28 then roundOnNext? mantissa scale c rest
    else if c = '_' then readFraction? mantissa scale rest
    else match digit? c with
      | none => none
      | some n =>
        if mantissa * 10 + n < limit96 then readFraction? (mantissa * 10 + n) (scale + 1) rest
        else roundOnNext? mantissa scale c rest

/-- Digits before the point; `started` says that one was read. -/
def readWhole? (mantissa : Nat) (started : Bool) : List Char → Option (Nat × Nat)
  | [] => if started then some (mantissa, 0) else none
  | '.' :: rest =>
    match started, rest with
    | true, rest => readFraction? mantissa 0 rest
    | false, c :: rest => if (digit? c).isSome then readFraction? mantissa 0 (c :: rest) else none
    | false, [] => none
  | c :: rest =>
    if c = '_' then if started then readWhole? mantissa true rest else none
    else match digit? c with
      | none => none
      | some n =>
        if mantissa * 10 + n < limit96 then readWhole? (mantissa * 10 + n) true rest else none

/-- Splits an optional sign off: whether it is a minus, and the rest. -/
def splitSign : List Char → Bool × List Char
  | '-' :: rest => (true, rest)
  | '+' :: rest => (false, rest)
  | cs => (false, cs)

/-- Reads the positional form. -/
def parseChars? (cs : List Char) : Option Decimal := do
  let (negative, digits) := splitSign cs
  let (mantissa, scale) ← readWhole? 0 false digits
  make? negative mantissa scale

/-- Reads the positional form of a decimal. -/
def parse? (s : String) : Option Decimal :=
  parseChars? s.toList

/-- An exponent of at most 28, with an optional plus sign. -/
def exponent? (cs : List Char) : Option Nat := do
  let digits := match cs with
    | '+' :: rest => rest
    | cs => cs
  if digits.isEmpty then none
  else
    let n ← digits.foldlM (fun n c ↦ (digit? c).map (n * 10 + ·)) 0
    if n ≤ 28 then some n else none

/-- The decimal times a power of ten. -/
def scaleUp? (d : Decimal) (exponent : Nat) : Option Decimal :=
  if exponent ≤ d.scale then make? d.negative d.mantissa (d.scale - exponent)
  else do
    let power ← make? false (tens exponent) 0
    let product ← mul? d power
    some product.normalize

/-- Whether a character introduces an exponent. -/
def isExponentMark (c : Char) : Bool :=
  c == 'e' || c == 'E'

/-- Reads a positional form followed by an exponent of ten. -/
def parseScientific? (s : String) : Option Decimal := do
  let cs := s.toList
  let base ← parseChars? (cs.takeWhile (!isExponentMark ·))
  match cs.dropWhile (!isExponentMark ·) with
  | [] => none
  | _ :: '-' :: exponent => do
    let e ← exponent? exponent
    make? base.negative base.mantissa (base.scale + e)
  | _ :: exponent => do
    let e ← exponent? exponent
    base.scaleUp? e

/-- Reads either form. -/
def parseAny? (s : String) : Option Decimal :=
  parse? s <|> parseScientific? s

/-- The decimal of an integer, when it has at most 96 bits. -/
def ofInt? (i : Int) : Option Decimal :=
  make? (decide (i < 0)) i.natAbs 0

theorem length_paddedDigits (mantissa scale : Nat) :
    scale < (paddedDigits mantissa scale).length := by
  simp only [paddedDigits, List.length_append, List.length_replicate]
  omega

theorem length_fractionDigits (d : Decimal) : d.fractionDigits.length = d.scale := by
  have h := length_paddedDigits d.mantissa d.scale
  simp only [fractionDigits, List.length_drop]
  omega

theorem wholeDigits_append_fractionDigits (d : Decimal) :
    d.wholeDigits ++ d.fractionDigits = paddedDigits d.mantissa d.scale := by
  simp [wholeDigits, fractionDigits]

end TradingDesk.Decimal
