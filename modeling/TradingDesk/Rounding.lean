/-!
# Rounding a Quotient

One rule rounds a quotient of naturals throughout: the nearest integer, a half going to the even
neighbour.  The result is the quotient or its successor, and never exceeds the dividend.
-/

namespace TradingDesk

/-- The integer nearest to `n / d`; a half goes to the even neighbour. -/
def nearestEven (n d : Nat) : Nat :=
  let q := n / d
  let r := n % d
  if 2 * r < d ∨ (2 * r = d ∧ q % 2 = 0) then q else q + 1

@[simp]
theorem nearestEven_one (n : Nat) : nearestEven n 1 = n := by
  simp [nearestEven, Nat.mod_one]

theorem div_le_nearestEven (n d : Nat) : n / d ≤ nearestEven n d := by
  simp only [nearestEven]
  split <;> omega

theorem nearestEven_le_succ (n d : Nat) : nearestEven n d ≤ n / d + 1 := by
  simp only [nearestEven]
  split <;> omega

theorem nearestEven_le (n d : Nat) : nearestEven n d ≤ n := by
  by_cases hn : n % d = 0
  · have hle : n / d ≤ n := Nat.div_le_self n d
    by_cases hd : d = 0
    · subst hd
      have h0 : n = 0 := by simpa using hn
      simp [nearestEven, h0]
    · simp only [nearestEven, hn]
      split
      · exact hle
      · omega
  · have hd : d ≠ 1 := by
      rintro rfl
      exact hn (Nat.mod_one n)
    have hsplit := Nat.div_add_mod n d
    rcases Nat.eq_zero_or_pos d with rfl | hpos
    · simp only [nearestEven, Nat.div_zero, Nat.mod_zero]
      split
      · exact Nat.zero_le n
      · simp at hn
        omega
    · have hmul : n / d ≤ d * (n / d) := Nat.le_mul_of_pos_left _ hpos
      have := nearestEven_le_succ n d
      omega

end TradingDesk
