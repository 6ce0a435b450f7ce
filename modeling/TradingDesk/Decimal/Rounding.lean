import TradingDesk.Decimal.Basic
import TradingDesk.Rounding

/-!
# Decimal Rounding

A decimal is rounded to a number of fraction digits half to even, or truncated.  `fit` gives the
decimal closest to an exact result by dropping the fewest digits that bring the mantissa under 96
bits and the scale to at most 28.  When even scale zero leaves too many bits there is no decimal to
give, and the result is `none`.  Normalising removes trailing fraction zeros.
-/

namespace TradingDesk.Decimal

/-- The nearest decimal to `magnitude / 10 ^ (scale + dropped)` that drops the fewest further
digits. -/
def fit (negative : Bool) (magnitude : Nat) (dropped : Nat) : (scale : Nat) → Option Decimal
  | 0 => make? negative (nearestEven magnitude (tens dropped)) 0
  | scale + 1 =>
    match make? negative (nearestEven magnitude (tens dropped)) (scale + 1) with
    | some d => some d
    | none => fit negative magnitude (dropped + 1) scale

/-- Rounding to at most `digits` fraction digits, half to even. -/
def round (d : Decimal) (digits : Nat) : Decimal :=
  if h : digits < d.scale then
    let m := nearestEven d.mantissa (tens (d.scale - digits))
    ⟨d.negative && m != 0, m, digits,
      Nat.lt_of_le_of_lt (nearestEven_le _ _) d.mantissa_lt,
      Nat.le_trans (Nat.le_of_lt h) d.scale_le⟩
  else
    d

/-- Truncation to at most `digits` fraction digits. -/
def truncate (d : Decimal) (digits : Nat) : Decimal :=
  if h : digits < d.scale then
    let m := d.mantissa / tens (d.scale - digits)
    ⟨d.negative && m != 0, m, digits,
      Nat.lt_of_le_of_lt (Nat.div_le_self _ _) d.mantissa_lt,
      Nat.le_trans (Nat.le_of_lt h) d.scale_le⟩
  else
    d

/-- The mantissa and scale without trailing fraction zeros. -/
def stripZeros (mantissa : Nat) : (scale : Nat) → Nat × Nat
  | 0 => (mantissa, 0)
  | scale + 1 =>
    if mantissa % 10 = 0 then stripZeros (mantissa / 10) scale else (mantissa, scale + 1)

theorem stripZeros_le (mantissa scale : Nat) :
    (stripZeros mantissa scale).1 ≤ mantissa ∧ (stripZeros mantissa scale).2 ≤ scale := by
  induction scale generalizing mantissa with
  | zero => simp [stripZeros]
  | succ scale ih =>
    unfold stripZeros
    split
    · have h := ih (mantissa / 10)
      have hdiv := Nat.div_le_self mantissa 10
      omega
    · simp

/-- The same value without trailing fraction zeros; a zero becomes plain zero. -/
def normalize (d : Decimal) : Decimal :=
  if d.mantissa = 0 then zero
  else
    ⟨d.negative, (stripZeros d.mantissa d.scale).1, (stripZeros d.mantissa d.scale).2,
      Nat.lt_of_le_of_lt (stripZeros_le _ _).1 d.mantissa_lt,
      Nat.le_trans (stripZeros_le _ _).2 d.scale_le⟩

@[simp]
theorem round_of_scale_le {d : Decimal} {digits : Nat} (h : d.scale ≤ digits) :
    d.round digits = d := by
  simp [round, Nat.not_lt.2 h]

theorem scale_round_le (d : Decimal) (digits : Nat) : (d.round digits).scale ≤ digits := by
  unfold round
  split
  · exact Nat.le_refl digits
  · omega

end TradingDesk.Decimal
