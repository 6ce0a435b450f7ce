import TradingDesk.Proofs.Decimal.Value

/-!
# Values of Quotients

A quotient is developed digit by digit, with the remainder that is still to be divided.  Quotient and
remainder together stand for the exact number at every moment, so the development misses it only by
what its last digit is rounded off.  Removing zeros at the end does not change the value.

A quotient that leaves one digit of room below the largest decimal therefore approximates the exact
number as sums and products do.
-/

namespace TradingDesk.Decimal

variable {a b c : Decimal} {x : ℚ} {divisor q r : Nat} {scale : ℤ}

/-- Whether the digits of a quotient at its scale are the nearest to a number, either exactly or
rounded off at the 28th fraction digit or beyond 27 digits. -/
structure Quotient.Rounds (x : ℚ) (z : Quotient) : Prop where
  near : z.digits = x * 10 ^ z.scale ∨
    |z.digits - x * 10 ^ z.scale| ≤ 1 / 2 ∧ (28 ≤ z.scale ∨ 10 ^ 27 ≤ z.digits)
  above : 0 ≤ z.scale ∨ 10 ^ 27 < z.digits

/-! ## Ends of a development -/

theorem zpow_sub_one_mul (x : ℚ) (scale : ℤ) : x * 10 ^ (scale - 1) = x * 10 ^ scale / 10 := by
  rw [zpow_sub_one₀ (by norm_num)]
  ring

/-- A last digit that goes up with at least half of the divisor as remainder, and stays with at most
half of it, misses the number by at most a half. -/
theorem abs_rounded_sub_le {up : Bool} (small : r < divisor)
    (high : up = true → divisor ≤ 2 * r) (low : up = false → 2 * r ≤ divisor) :
    |((if up then q + 1 else q : Nat) : ℚ) - (q + r / divisor)| ≤ 1 / 2 := by
  have pos : (0 : ℚ) < divisor := by exact_mod_cast Nat.zero_lt_of_lt small
  have start : (0 : ℚ) ≤ r / divisor := by positivity
  have stop : (r : ℚ) / divisor < 1 := (div_lt_one pos).2 (by exact_mod_cast small)
  rw [abs_le]
  cases up with
  | true =>
    have half : (1 : ℚ) / 2 ≤ r / divisor := by
      rw [div_le_div_iff₀ (by norm_num) pos]
      have high : (divisor : ℚ) ≤ 2 * r := by exact_mod_cast high rfl
      linarith
    simp only [if_true, Nat.cast_add, Nat.cast_one]
    constructor <;> linarith
  | false =>
    have half : (r : ℚ) / divisor ≤ 1 / 2 := by
      rw [div_le_div_iff₀ pos (by norm_num)]
      have low : 2 * (r : ℚ) ≤ divisor := by exact_mod_cast low rfl
      linarith
    simp only [Bool.false_eq_true, if_false]
    constructor <;> linarith

theorem roundOff_rounds (small : r < divisor) (fits : q < limit96)
    (number : x * 10 ^ scale = q + r / divisor) (deep : 0 ≤ scale)
    (full : 28 ≤ scale ∨ limit96 ≤ q * 10) :
    (Quotient.roundOff divisor q r scale).Rounds x := by
  unfold Quotient.roundOff
  dsimp only
  generalize upward : (decide (divisor < 2 * r) || decide (2 * r = divisor) && q % 2 == 1) = up
  have near : |((if up then q + 1 else q : Nat) : ℚ) - x * 10 ^ scale| ≤ 1 / 2 := by
    rw [number]
    refine abs_rounded_sub_le small ?_ ?_
    · rintro rfl
      simp only [Bool.or_eq_true, Bool.and_eq_true, decide_eq_true_eq] at upward
      omega
    · rintro rfl
      simp only [Bool.or_eq_false_iff, decide_eq_false_iff_not] at upward
      omega
  have least : q ≤ if up then q + 1 else q := by split <;> omega
  have most : (if up then q + 1 else q) ≤ q + 1 := by split <;> omega
  generalize (if up then q + 1 else q) = q' at near least most ⊢
  unfold limit96 at full fits
  split
  · exact ⟨.inr ⟨near, full.imp_right fun long ↦ by dsimp only; omega⟩, .inl deep⟩
  · rename_i beyond
    -- Only the limit itself is out of range here, and its tenth rounds up.
    obtain rfl : q' = limit96 := by
      unfold limit96 at beyond ⊢
      omega
    have long : 10 ^ 27 < (limit96 + 5) / 10 := by decide
    refine ⟨.inr ⟨?_, .inr long.le⟩, .inr long⟩
    have digits : (((limit96 + 5) / 10 : Nat) : ℚ) = (limit96 : ℚ) / 10 + 4 / 10 := by
      norm_num [limit96]
    dsimp only
    rw [zpow_sub_one_mul, digits]
    rw [abs_le] at near ⊢
    constructor <;> linarith [near.1, near.2]

/-- A last digit that is dropped, upwards from five on and downwards up to a plain five, misses the
number by at most a half. -/
theorem abs_dropped_sub_le {up : Bool} (small : r < divisor) (high : up = true → 5 ≤ q % 10)
    (low : up = false → q % 10 ≤ 4 ∨ q % 10 = 5 ∧ r = 0) :
    |((q / 10 + if up then 1 else 0 : Nat) : ℚ) - (q + r / divisor) / 10| ≤ 1 / 2 := by
  have pos : (0 : ℚ) < divisor := by exact_mod_cast Nat.zero_lt_of_lt small
  have start : (0 : ℚ) ≤ r / divisor := by positivity
  have stop : (r : ℚ) / divisor < 1 := (div_lt_one pos).2 (by exact_mod_cast small)
  have digits : (q : ℚ) = 10 * (q / 10 : Nat) + (q % 10 : Nat) := by
    exact_mod_cast (Nat.div_add_mod q 10).symm
  have bottom : (0 : ℚ) ≤ (q % 10 : Nat) := Nat.cast_nonneg _
  have top : ((q % 10 : Nat) : ℚ) ≤ 9 := by
    exact_mod_cast Nat.le_of_lt_succ (Nat.mod_lt q (by decide : 0 < 10))
  rw [abs_le]
  cases up with
  | true =>
    have high : (5 : ℚ) ≤ (q % 10 : Nat) := by exact_mod_cast high rfl
    simp only [if_true, Nat.cast_add, Nat.cast_one]
    constructor <;> linarith
  | false =>
    have low : ((q % 10 : Nat) : ℚ) + r / divisor ≤ 5 := by
      obtain four | ⟨five, rfl⟩ := low rfl
      · have four : ((q % 10 : Nat) : ℚ) ≤ 4 := by exact_mod_cast four
        linarith
      · rw [five]
        norm_num
    simp only [Bool.false_eq_true, if_false, Nat.add_zero]
    constructor <;> linarith

theorem dropDigit?_rounds {carried : Bool} {z : Quotient} (small : r < divisor)
    (long : limit96 ≤ q) (number : x * 10 ^ scale = q + r / divisor)
    (h : Quotient.dropDigit? q r scale carried = some z) : z.Rounds x := by
  unfold Quotient.dropDigit? at h
  split at h
  · cases h
  · rename_i deep
    cases h
    refine ⟨.inr ⟨?_, .inr ?_⟩, .inl (by dsimp only; omega)⟩
    · dsimp only
      rw [zpow_sub_one_mul, number]
      generalize up : (decide (5 < q % 10) || q % 10 == 5 && (r != 0 || q / 10 % 2 == 1)) = flag
      refine abs_dropped_sub_le small ?_ ?_
      · rintro rfl
        simp only [Bool.or_eq_true, Bool.and_eq_true, decide_eq_true_eq, beq_iff_eq] at up
        omega
      · rintro rfl
        simp only [Bool.or_eq_false_iff, Bool.and_eq_false_iff, decide_eq_false_iff_not,
          beq_eq_false_iff_ne, bne_eq_false_iff_eq] at up
        omega
    · dsimp only
      unfold limit96 at long
      omega

/-! ## The development -/

/-- Further digits of the quotient leave the number that quotient and remainder stand for. -/
theorem number_step (pos : 0 < divisor) (number : x * 10 ^ scale = q + r / divisor) (p : Nat) :
    x * 10 ^ (scale + p) =
      (q * tens p + r * tens p / divisor : Nat) + (r * tens p % divisor : Nat) / divisor := by
  have pos : (0 : ℚ) < divisor := by exact_mod_cast pos
  have division : ((r * tens p : Nat) : ℚ) =
      divisor * (r * tens p / divisor : Nat) + (r * tens p % divisor : Nat) := by
    exact_mod_cast (Nat.div_add_mod (r * tens p) divisor).symm
  have quotient : (r : ℚ) / divisor * 10 ^ p =
      (r * tens p / divisor : Nat) + (r * tens p % divisor : Nat) / divisor := by
    rw [← cast_tens, div_mul_eq_mul_div, ← Nat.cast_mul, division, add_div,
      mul_div_cancel_left₀ _ pos.ne']
  calc
    x * 10 ^ (scale + p) = x * 10 ^ scale * 10 ^ p := by
      rw [zpow_add₀ (by norm_num), zpow_natCast, mul_assoc]
    _ = q * 10 ^ p + r / divisor * 10 ^ p := by rw [number, add_mul]
    _ = _ := by
      rw [quotient, ← cast_tens]
      push_cast
      ring

theorem headroom_eq_zero {limit : Nat} (h : headroom q limit = 0) :
    limit = 0 ∨ limit96 ≤ q * 10 := by
  induction limit with
  | zero => exact .inl rfl
  | succ limit ih =>
    unfold headroom at h
    split at h
    · cases h
    · rename_i beyond
      obtain none | full := ih h
      · subst none
        exact .inr (Nat.not_lt.1 beyond)
      · exact .inr full

theorem develop?_rounds {carried : Bool} {z : Quotient} (small : r < divisor) (fits : q < limit96)
    (number : x * 10 ^ scale = q + r / divisor)
    (h : develop? divisor q r scale carried = some z) : z.Rounds x := by
  have pos : 0 < divisor := Nat.zero_lt_of_lt small
  induction q, r, scale, carried using develop?.induct divisor with
  | case1 q scale carried deep =>
    rw [develop?, dif_pos rfl, dif_pos deep] at h
    cases h
    exact ⟨.inl (by simpa using number.symm), .inl deep⟩
  | case2 q scale carried high p q' beyond =>
    rw [develop?, dif_pos rfl, dif_neg high] at h
    rw [if_pos beyond] at h
    cases h
  | case3 q scale carried high p q' room ih =>
    rw [develop?, dif_pos rfl, dif_neg high] at h
    rw [if_neg room] at h
    have step := number_step pos number p
    simp only [Nat.zero_mul, Nat.zero_div, Nat.zero_mod, Nat.add_zero] at step
    exact ih pos (Nat.lt_of_not_le room) step h
  | case4 q r scale carried rest limit p short =>
    rw [develop?, dif_neg rest] at h
    rw [if_pos short] at h
    cases h
  | case5 q r scale carried rest limit p enough none =>
    rw [develop?, dif_neg rest] at h
    rw [if_neg enough, dif_pos none] at h
    cases h
    refine roundOff_rounds small fits number (by omega) ?_
    obtain empty | full := headroom_eq_zero none
    · exact .inl (by omega)
    · exact .inr full
  | case6 q r scale carried rest limit p enough some beyond =>
    rw [develop?, dif_neg rest] at h
    rw [if_neg enough, dif_neg some] at h
    rw [if_pos beyond] at h
    cases h
  | case7 q r scale carried rest limit p enough some q' room beyond =>
    rw [develop?, dif_neg rest] at h
    rw [if_neg enough, dif_neg some] at h
    rw [if_neg room, if_pos beyond] at h
    exact dropDigit?_rounds (Nat.mod_lt _ pos) beyond (number_step pos number p) h
  | case8 q r scale carried rest limit p enough some q' r' room room' ih =>
    rw [develop?, dif_neg rest] at h
    rw [if_neg enough, dif_neg some] at h
    rw [if_neg room, if_neg room'] at h
    exact ih (Nat.mod_lt _ pos) (Nat.lt_of_not_le room') (number_step pos number p) h

/-! ## Removed zeros -/

theorem stripBlocks_value (q scale : Nat) :
    ((stripBlocks q scale).1 : ℚ) / 10 ^ (stripBlocks q scale).2 = q / 10 ^ scale := by
  induction q, scale using stripBlocks.induct with
  | case1 q scale zeros ih =>
    rw [stripBlocks, if_pos zeros, ih]
    obtain ⟨-, deep, even⟩ := zeros
    obtain ⟨rest, rfl⟩ := Nat.exists_eq_add_of_le' deep
    obtain ⟨q, rfl⟩ := Nat.dvd_of_mod_eq_zero even
    rw [Nat.mul_div_cancel_left _ (by decide), Nat.add_sub_cancel, pow_add]
    push_cast
    field_simp
    norm_num
  | case2 q scale full =>
    rw [stripBlocks, if_neg full]

theorem stripOnce_value (digits : Nat) (qs : Nat × Nat) :
    ((stripOnce digits qs).1 : ℚ) / 10 ^ (stripOnce digits qs).2 = qs.1 / 10 ^ qs.2 := by
  unfold stripOnce
  split
  · rename_i zeros
    obtain ⟨-, deep, even⟩ := zeros
    obtain ⟨rest, split⟩ := Nat.exists_eq_add_of_le' deep
    obtain ⟨q, product⟩ := Nat.dvd_of_mod_eq_zero even
    rw [product, split, Nat.mul_div_cancel_left _ (tens_pos digits), Nat.add_sub_cancel, pow_add]
    push_cast
    rw [cast_tens]
    field_simp
  · rfl

theorem tidy_value {z : Quotient} (deep : 0 ≤ z.scale) :
    (z.tidy.1 : ℚ) / 10 ^ z.tidy.2 = z.digits / 10 ^ z.scale := by
  have power : (10 : ℚ) ^ z.scale = 10 ^ z.scale.toNat := by
    rw [← zpow_natCast, Int.toNat_of_nonneg deep]
  rw [power, Quotient.tidy]
  split
  · rw [stripOnce_value, stripOnce_value, stripOnce_value, stripBlocks_value]
  · rfl

theorem tidy_of_neg {z : Quotient} (high : z.scale < 0) : z.tidy = (z.digits, 0) := by
  have scale : z.scale.toNat = 0 := Int.toNat_of_nonpos high.le
  rw [Quotient.tidy, scale, stripBlocks]
  simp [stripOnce]

/-! ## Quotients -/

/-- The number that is developed is the quotient without its sign. -/
theorem number_start (a b : Decimal) :
    (a.mantissa / 10 ^ a.scale : ℚ) / (b.mantissa / 10 ^ b.scale) *
        10 ^ ((a.scale : ℤ) - b.scale) =
      (a.mantissa / b.mantissa : Nat) + (a.mantissa % b.mantissa : Nat) / b.mantissa := by
  obtain none | some := Nat.eq_zero_or_pos b.mantissa
  · simp [none]
  · have pos : (0 : ℚ) < b.mantissa := by exact_mod_cast some
    have division : (a.mantissa : ℚ) =
        b.mantissa * (a.mantissa / b.mantissa : Nat) + (a.mantissa % b.mantissa : Nat) := by
      exact_mod_cast (Nat.div_add_mod a.mantissa b.mantissa).symm
    rw [zpow_sub₀ (by norm_num), zpow_natCast, zpow_natCast]
    have whole : (a.mantissa : ℚ) / b.mantissa =
        (a.mantissa / b.mantissa : Nat) + (a.mantissa % b.mantissa : Nat) / b.mantissa := by
      conv_lhs => rw [division]
      rw [add_div, mul_div_cancel_left₀ _ pos.ne']
    rw [← whole]
    field_simp

theorem Quotient.Rounds.approximates {z : Quotient} (rounds : z.Rounds x) (deep : 0 ≤ z.scale)
    (negative : Bool) (value : c.value = withSign negative (z.digits / 10 ^ z.scale)) :
    c.Approximates (withSign negative x) := by
  have unit : (0 : ℚ) < 10 ^ z.scale := zpow_pos (by norm_num) _
  have power : (10 : ℚ) ^ z.scale = 10 ^ z.scale.toNat := by
    rw [← zpow_natCast, Int.toNat_of_nonneg deep]
  obtain same | ⟨near, long⟩ := rounds.near
  · refine approximates_of_eq ?_
    rw [value, same, mul_div_cancel_right₀ _ unit.ne']
  · refine @approximates_of_half_unit c _ z.scale.toNat ?_ ?_
    · have distance : z.digits / 10 ^ z.scale - x = (z.digits - x * 10 ^ z.scale) / 10 ^ z.scale := by
        field_simp
      rw [value, withSign_sub, abs_withSign, distance, abs_div, abs_of_pos unit, ← power]
      exact div_le_div_of_nonneg_right near unit.le
    · refine long.imp (by omega) fun long ↦ ?_
      have size : |c.value| * 10 ^ z.scale.toNat = z.digits := by
        rw [value, abs_withSign, abs_of_nonneg (by positivity), ← power,
          div_mul_cancel₀ _ unit.ne']
      rw [size]
      exact_mod_cast long

theorem div?_approximates (room : |c.value| ≤ 10 ^ 27) (h : div? a b = some c) :
    c.Approximates (a.value / b.value) := by
  unfold div? at h
  split at h
  · cases h
  · rename_i nonzero
    split at h
    · rename_i empty
      cases h
      refine approximates_of_eq ?_
      rw [isZero_iff.1 empty, zero_div, value_zero]
    · obtain ⟨z, developed, made⟩ := Option.bind_eq_some_iff.1 h
      change make? (a.negative != b.negative) z.tidy.1 z.tidy.2 = some c at made
      have pos : 0 < b.mantissa := Nat.pos_of_ne_zero (by simpa [isZero] using nonzero)
      have rounds := develop?_rounds (Nat.mod_lt _ pos)
        (Nat.lt_of_le_of_lt (Nat.div_le_self _ _) a.mantissa_lt) (number_start a b) developed
      have value := value_of_make? made
      rw [value_eq_withSign a, value_eq_withSign b, withSign_div]
      obtain deep | long := rounds.above
      · rw [tidy_value deep] at value
        exact rounds.approximates deep _ value
      · by_cases deep : 0 ≤ z.scale
        · rw [tidy_value deep] at value
          exact rounds.approximates deep _ value
        · rw [tidy_of_neg (Int.not_le.1 deep)] at value
          rw [value, abs_withSign, pow_zero, div_one, Nat.abs_cast] at room
          have room : z.digits ≤ 10 ^ 27 := by exact_mod_cast room
          omega

theorem div?_nonneg (ha : 0 ≤ a.value) (hb : 0 ≤ b.value) (h : div? a b = some c) :
    0 ≤ c.value := by
  unfold div? at h
  split at h
  · cases h
  · rename_i nonzero
    split at h
    · cases h
      exact value_zero.ge
    · rename_i some
      obtain ⟨z, -, made⟩ := Option.bind_eq_some_iff.1 h
      rw [value_of_make? made, not_negative_of_nonneg ha some, not_negative_of_nonneg hb nonzero]
      simp only [bne_self_eq_false, withSign, Bool.false_eq_true, if_false]
      positivity

end TradingDesk.Decimal
