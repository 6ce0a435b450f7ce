import TradingDesk.Binary64.Reading
import TradingDesk.Proofs.Decimal.Text

/-!
# Runs of Digits

Numbers are written as runs of decimal digits, and a reader takes the longest run that it finds.  A run
is found again when a character other than a digit follows it, and its value is the number that was
written.
-/

namespace TradingDesk

variable {c : Char} {cs rest : List Char}

/-! ## Values -/

theorem Decimal.digit?_eq (c : Char) :
    Decimal.digit? c = if c.isDigit then some (c.toNat - '0'.toNat) else none := by
  by_cases digit : c.isDigit = true
  · rw [Decimal.digit?_of_isDigit digit, if_pos digit]
  · rw [if_neg digit]
    simp only [Char.isDigit, ge_iff_le, Bool.and_eq_true, decide_eq_true_eq] at digit
    exact if_neg digit

namespace Binary64

@[simp]
theorem isDigit_eq (c : Char) : isDigit c = c.isDigit := by
  rw [isDigit, Decimal.digit?_eq]
  cases c.isDigit <;> rfl

theorem foldl_digits (digits : ∀ c ∈ cs, c.isDigit = true) (n : Nat) :
    cs.foldl (fun n c ↦ n * 10 + (Decimal.digit? c).getD 0) n = Nat.ofDigitChars 10 cs n := by
  induction cs generalizing n with
  | nil => rfl
  | cons c cs ih =>
    have digit : c.isDigit = true := digits c List.mem_cons_self
    rw [List.foldl_cons, ih fun c mem ↦ digits c (List.mem_cons_of_mem _ mem),
      Decimal.digit?_of_isDigit digit, Nat.ofDigitChars_cons, Nat.mul_comm]
    rfl

theorem digitsValue_eq (digits : ∀ c ∈ cs, c.isDigit = true) :
    digitsValue cs = Nat.ofDigitChars 10 cs 0 :=
  foldl_digits digits 0

theorem digitsValue_toDigits (n : Nat) : digitsValue (Nat.toDigits 10 n) = n := by
  rw [digitsValue_eq fun c mem ↦ Nat.isDigit_of_mem_toDigits (by decide) (by decide) mem]
  exact Nat.ofDigitChars_ten_toDigits

end Binary64

/-! ## Ends -/

/-- Whether no digit follows. -/
def EndsDigits (rest : List Char) : Prop :=
  ∀ c ∈ rest.head?, c.isDigit = false

theorem endsDigits_nil : EndsDigits [] := by
  intro c mem
  cases mem

theorem endsDigits_cons (other : c.isDigit = false) : EndsDigits (c :: rest) := by
  rintro d ⟨⟩
  exact other

theorem takeWhile_digits (digits : ∀ c ∈ cs, c.isDigit = true) (ends : EndsDigits rest) :
    (cs ++ rest).takeWhile Char.isDigit = cs := by
  rw [List.takeWhile_append_of_pos digits]
  cases rest with
  | nil => simp
  | cons c rest => simp [ends c rfl]

theorem dropWhile_digits (digits : ∀ c ∈ cs, c.isDigit = true) (ends : EndsDigits rest) :
    (cs ++ rest).dropWhile Char.isDigit = rest := by
  rw [List.dropWhile_append_of_pos digits]
  cases rest with
  | nil => rfl
  | cons c rest => simp [ends c rfl]

/-! ## Leading digits -/

theorem isDigit_toDigits (n : Nat) : ∀ c ∈ Nat.toDigits 10 n, c.isDigit = true :=
  fun _ mem ↦ Nat.isDigit_of_mem_toDigits (by decide) (by decide) mem

/-- The digits of a positive number do not begin with a zero. -/
theorem head?_toDigits_ne {n : Nat} (positive : 0 < n) :
    (Nat.toDigits 10 n).head? ≠ some '0' := by
  have single : ∀ k < 10, 0 < k → [Nat.digitChar k].head? ≠ some '0' := by decide
  induction n using Nat.strongRecOn with
  | _ n ih =>
    by_cases small : n < 10
    · rw [Nat.toDigits_of_lt_base small]
      exact single n small positive
    · rw [Nat.toDigits_of_base_le (by decide) (Nat.le_of_not_lt small), List.head?_append]
      have tens : 0 < n / 10 := by omega
      have shorter := ih (n / 10) (by omega) tens
      cases digits : Nat.toDigits 10 (n / 10) with
      | nil => exact absurd digits Nat.toDigits_ne_nil
      | cons c cs =>
        rw [digits] at shorter
        exact shorter

end TradingDesk
