import TradingDesk.Decimal.Rounding

/-!
# Decimal Arithmetic

Sums and products are exact whenever the exact result has a decimal; otherwise the fewest digits
are dropped, rounding half to even.  A result beyond 96 bits at scale zero is out of range, and so
is a quotient by zero: each operation then answers `none`.

A quotient is developed in blocks of at most nine digits until the remainder is zero, the scale is
28 or the mantissa is full.  Trailing zeros that the blocks introduced are removed in steps of
eight, four, two and one digit, each step guarded by a divisibility test on the binary form, so
that some zeros can stay: one half is `0.50`.
-/

namespace TradingDesk.Decimal

/-! ## Sums -/

/-- The signed mantissa at a scale that is at least the decimal's own. -/
def signedAt (d : Decimal) (scale : Nat) : Int :=
  d.signed * tens (scale - d.scale)

/-- The sum.  A zero operand gives the other one unchanged. -/
def add? (a b : Decimal) : Option Decimal :=
  if a.isZero then some b
  else if b.isZero then some a
  else
    let scale := Max.max a.scale b.scale
    let total := a.signedAt scale + b.signedAt scale
    fit (decide (total < 0)) total.natAbs 0 scale

/-- The difference.  A zero on the right leaves the left operand unchanged, and a zero on the left
gives the right operand negated, except that subtracting a zero gives that zero. -/
def sub? (a b : Decimal) : Option Decimal :=
  if a.isZero then some (if b.isZero then b else b.neg)
  else if b.isZero then some a
  else add? a b.neg

/-- The sum of a list, from plain zero and left to right. -/
def sum? (ds : List Decimal) : Option Decimal :=
  ds.foldlM add? zero

/-! ## Products -/

/-- The product.  A zero operand gives plain zero, and so does a product of two short mantissas
that lies more than 19 digits below the last representable one. -/
def mul? (a b : Decimal) : Option Decimal :=
  if a.isZero || b.isZero then some zero
  else
    let scale := a.scale + b.scale
    if a.mantissa < limit32 ∧ b.mantissa < limit32 ∧ 47 < scale then some zero
    else fit (a.negative != b.negative) (a.mantissa * b.mantissa) 0 scale

/-! ## Quotients -/

/-- The largest number of digits, at most `limit`, that can be appended to `q` within 96 bits. -/
def headroom (q : Nat) : (limit : Nat) → Nat
  | 0 => 0
  | limit + 1 => if q * tens (limit + 1) < limit96 then limit + 1 else headroom q limit

theorem headroom_le (q limit : Nat) : headroom q limit ≤ limit := by
  induction limit with
  | zero => simp [headroom]
  | succ limit ih =>
    unfold headroom
    split <;> omega

/-- A quotient in development: the digits so far, their scale, and whether a remainder was ever
carried into further digits. -/
structure Quotient where
  digits : Nat
  scale : Int
  carried : Bool

/-- A development that has to stop with remainder `r` rounds its last digit half to even. -/
def Quotient.roundOff (divisor q r : Nat) (scale : Int) : Quotient :=
  let up := decide (divisor < 2 * r) || (decide (2 * r = divisor) && q % 2 == 1)
  let q' := if up then q + 1 else q
  if q' < limit96 then ⟨q', scale, true⟩ else ⟨(q' + 5) / 10, scale - 1, true⟩

/-- Digits that overflow the mantissa lose their last one, the remainder deciding an exact half. -/
def Quotient.dropDigit? (q r : Nat) (scale : Int) (carried : Bool) : Option Quotient :=
  if scale - 1 < 0 then none
  else
    let last := q % 10
    let up := decide (5 < last) || (last == 5 && (r != 0 || q / 10 % 2 == 1))
    some ⟨q / 10 + (if up then 1 else 0), scale - 1, carried⟩

/-- Long division from quotient `q` and remainder `r`, block by block. -/
def develop? (divisor q r : Nat) (scale : Int) (carried : Bool) : Option Quotient :=
  if _ : r = 0 then
    if _ : 0 ≤ scale then some ⟨q, scale, carried⟩
    else
      let p := Min.min 9 (-scale).toNat
      let q' := q * tens p
      if limit96 ≤ q' then none
      else develop? divisor q' 0 (scale + p) carried
  else
    let limit := Min.min 9 (28 - scale).toNat
    let p := headroom q limit
    if p < 9 ∧ p + scale < 0 then none
    else if _ : p = 0 then some (Quotient.roundOff divisor q r scale)
    else
      let q' := q * tens p + r * tens p / divisor
      let r' := r * tens p % divisor
      if limit96 ≤ q * tens p then none
      else if limit96 ≤ q' then Quotient.dropDigit? q' r' (scale + p) true
      else develop? divisor q' r' (scale + p) true
termination_by (28 - scale).toNat
decreasing_by
  · omega
  · have hle : p ≤ limit := headroom_le q limit
    have hlimit : limit ≤ (28 - scale).toNat := Nat.min_le_right _ _
    have hpos : 0 < p := Nat.pos_of_ne_zero ‹_›
    change (28 - (scale + (p : Int))).toNat < (28 - scale).toNat
    clear_value p limit
    omega

/-- Removes blocks of eight zeros while the binary form ends in 32 zero bits. -/
def stripBlocks (q scale : Nat) : Nat × Nat :=
  if q % limit32 = 0 ∧ 8 ≤ scale ∧ q % 100000000 = 0 then stripBlocks (q / 100000000) (scale - 8)
  else (q, scale)
termination_by scale
decreasing_by omega

/-- Removes one block of `digits` zeros when the binary form ends in that many zero bits. -/
def stripOnce (digits : Nat) (qs : Nat × Nat) : Nat × Nat :=
  if qs.1 % twos digits = 0 ∧ digits ≤ qs.2 ∧ qs.1 % tens digits = 0 then
    (qs.1 / tens digits, qs.2 - digits)
  else
    qs

/-- The zeros that block-wise development leaves behind are removed once per block size. -/
def Quotient.tidy (q : Quotient) : Nat × Nat :=
  if q.carried then
    stripOnce 1 (stripOnce 2 (stripOnce 4 (stripBlocks q.digits q.scale.toNat)))
  else
    (q.digits, q.scale.toNat)

/-- The quotient; `none` for a zero divisor or a result out of range. -/
def div? (a b : Decimal) : Option Decimal :=
  if b.isZero then none
  else if a.isZero then some zero
  else do
    let quotient ← develop? b.mantissa (a.mantissa / b.mantissa) (a.mantissa % b.mantissa)
      ((a.scale : Int) - b.scale) false
    let (digits, scale) := quotient.tidy
    make? (a.negative != b.negative) digits scale

@[simp]
theorem add?_zero_left (a : Decimal) : add? zero a = some a := by
  simp [add?, isZero, zero]

@[simp]
theorem sum?_nil : sum? [] = some zero := rfl

@[simp]
theorem div?_zero (a : Decimal) : div? a zero = none := by
  simp [div?, isZero, zero]

end TradingDesk.Decimal
