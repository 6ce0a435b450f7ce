import TradingDesk.Power

/-!
# Decimal Amounts

Prices, sizes and fractions are exact decimals: a sign, a mantissa of at most 96 bits and a scale
of at most 28 fraction digits.  The value of a decimal is its signed mantissa divided by the power
of ten of its scale, and both limits are fields of the type, so no operation can leave them.

The scale is data and not only a way to write the value: `0.90` and `0.9` are equal in value and
different as decimals.  Order compares values; structural equality compares the fields.  A zero can
carry a sign, which only negation produces, and which comparison ignores.
-/

namespace TradingDesk

/-- A decimal with a 96-bit mantissa and at most 28 fraction digits. -/
structure Decimal where
  negative : Bool
  mantissa : Nat
  scale : Nat
  mantissa_lt : mantissa < limit96
  scale_le : scale ≤ 28
deriving DecidableEq, Repr

namespace Decimal

/-- The decimal of the given parts when both limits hold; a zero takes no sign. -/
def make? (negative : Bool) (mantissa scale : Nat) : Option Decimal :=
  if h : mantissa < limit96 ∧ scale ≤ 28 then
    some ⟨negative && mantissa != 0, mantissa, scale, h.1, h.2⟩
  else
    none

/-- Zero without fraction digits. -/
def zero : Decimal := ⟨false, 0, 0, by decide, by decide⟩

instance : Inhabited Decimal := ⟨zero⟩

/-- The non-negative constant `mantissa / 10 ^ scale`; zero when it is out of range. -/
def const (mantissa scale : Nat) : Decimal :=
  (make? false mantissa scale).getD zero

/-- One without fraction digits. -/
def one : Decimal := const 1 0

/-- The mantissa with its sign. -/
def signed (d : Decimal) : Int :=
  if d.negative then -(d.mantissa : Int) else d.mantissa

/-- Whether the value is zero, whatever the scale and the sign. -/
def isZero (d : Decimal) : Bool :=
  d.mantissa == 0

/-- Sign change, also of a zero. -/
def neg (d : Decimal) : Decimal :=
  { d with negative := !d.negative }

/-- The value without its sign. -/
def abs (d : Decimal) : Decimal :=
  { d with negative := false }

/-! ## Order by value -/

instance : LE Decimal :=
  ⟨fun a b ↦ a.signed * tens b.scale ≤ b.signed * tens a.scale⟩

instance : LT Decimal :=
  ⟨fun a b ↦ a.signed * tens b.scale < b.signed * tens a.scale⟩

theorem le_def (a b : Decimal) :
    a ≤ b ↔ a.signed * tens b.scale ≤ b.signed * tens a.scale := Iff.rfl

theorem lt_def (a b : Decimal) :
    a < b ↔ a.signed * tens b.scale < b.signed * tens a.scale := Iff.rfl

instance (a b : Decimal) : Decidable (a ≤ b) :=
  inferInstanceAs (Decidable (a.signed * tens b.scale ≤ b.signed * tens a.scale))

instance (a b : Decimal) : Decidable (a < b) :=
  inferInstanceAs (Decidable (a.signed * tens b.scale < b.signed * tens a.scale))

theorem not_lt {a b : Decimal} : ¬a < b ↔ b ≤ a := by
  rw [lt_def, le_def, Int.not_lt]

theorem not_le {a b : Decimal} : ¬a ≤ b ↔ b < a := by
  rw [lt_def, le_def, Int.not_le]

/-- The smaller of two values; of equal values the first, with its scale. -/
def min (a b : Decimal) : Decimal :=
  if b < a then b else a

/-- The larger of two values; of equal values the first, with its scale. -/
def max (a b : Decimal) : Decimal :=
  if a < b then b else a

/-- Whether the value is above zero. -/
def isPositive (d : Decimal) : Bool :=
  decide (zero < d)

@[simp]
theorem signed_zero : zero.signed = 0 := rfl

@[simp]
theorem signed_neg (d : Decimal) : d.neg.signed = -d.signed := by
  cases h : d.negative <;> simp [signed, neg, h]

theorem zero_lt_iff (d : Decimal) : zero < d ↔ 0 < d.signed := by
  simp [lt_def, zero, signed]

theorem const_of_lt {mantissa scale : Nat} (fits : mantissa < limit96) (short : scale ≤ 28) :
    const mantissa scale = ⟨false, mantissa, scale, fits, short⟩ := by
  simp [const, make?, fits, short]

theorem make?_eq_some {negative : Bool} {mantissa scale : Nat} {d : Decimal}
    (h : make? negative mantissa scale = some d) :
    d.mantissa = mantissa ∧ d.scale = scale ∧ d.negative = (negative && mantissa != 0) := by
  unfold make? at h
  split at h
  · cases h
    exact ⟨rfl, rfl, rfl⟩
  · cases h

end Decimal

end TradingDesk
