/-!
# Powers and Limits

Decimals are moved by powers of ten and binary numbers by powers of two.  Words of a given number of
bits hold the natural numbers below a limit.
-/

namespace TradingDesk

/-- A power of ten. -/
def tens (n : Nat) : Nat :=
  Nat.pow 10 n

/-- A power of two. -/
def twos (n : Nat) : Nat :=
  Nat.pow 2 n

/-- The limit of words of 32 bits. -/
def limit32 : Nat := 4294967296

/-- The limit of words of 64 bits. -/
def limit64 : Nat := 18446744073709551616

/-- The limit of words of 96 bits. -/
def limit96 : Nat := 79228162514264337593543950336

/-- Whether a signed word of 64 bits holds a whole number. -/
def isWord (i : Int) : Bool :=
  decide (-9223372036854775808 ≤ i ∧ i < 9223372036854775808)

@[simp]
theorem tens_zero : tens 0 = 1 := rfl

theorem tens_succ (n : Nat) : tens (n + 1) = 10 * tens n := by
  rw [Nat.mul_comm]
  rfl

theorem tens_pos (n : Nat) : 0 < tens n :=
  Nat.pow_pos (by decide)

theorem twos_pos (n : Nat) : 0 < twos n :=
  Nat.pow_pos (by decide)

end TradingDesk
