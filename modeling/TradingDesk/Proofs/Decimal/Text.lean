import TradingDesk.Decimal.Text

/-!
# Decimal Text Read Back

The text of a decimal is read back as the same decimal, with its scale, unless the decimal is a zero
that carries a sign: reading never gives such a zero.  Arithmetic on decimals whose zeros carry no
sign stays among them, so amounts that were computed from amounts that were read can be written and
read again.
-/

namespace TradingDesk.Decimal

/-- Whether the decimal is no zero with a sign. -/
def IsPlain (d : Decimal) : Prop :=
  d.negative = true → d.mantissa ≠ 0

instance (d : Decimal) : Decidable d.IsPlain :=
  inferInstanceAs (Decidable (_ → _))

/-! ## Plain decimals -/

theorem isPlain_zero : IsPlain zero := by
  intro signed
  cases signed

theorem isPlain_one : IsPlain one := by
  intro signed
  cases signed

theorem isPlain_of_not_isZero {d : Decimal} (h : ¬d.isZero = true) : d.IsPlain := by
  intro _ zero
  exact h (by simp [isZero, zero])

theorem isPlain_of_zero_lt {d : Decimal} (h : zero < d) : d.IsPlain := by
  intro negative empty
  rw [zero_lt_iff] at h
  simp [signed, negative, empty] at h

theorem make?_isPlain {negative : Bool} {mantissa scale : Nat} {d : Decimal}
    (h : make? negative mantissa scale = some d) : d.IsPlain := by
  obtain ⟨m, -, n⟩ := make?_eq_some h
  intro signed
  rw [n] at signed
  rw [m]
  simpa using (Bool.and_eq_true_iff.1 signed).2

theorem fit_isPlain {negative : Bool} {magnitude dropped scale : Nat} {d : Decimal}
    (h : fit negative magnitude dropped scale = some d) : d.IsPlain := by
  induction scale generalizing dropped with
  | zero => exact make?_isPlain h
  | succ scale ih =>
    unfold fit at h
    split at h
    · rename_i made
      cases h
      exact make?_isPlain made
    · exact ih h

theorem IsPlain.round {d : Decimal} (h : d.IsPlain) (digits : Nat) : (d.round digits).IsPlain := by
  unfold Decimal.round
  split
  · intro signed
    simpa using (Bool.and_eq_true_iff.1 signed).2
  · exact h

theorem IsPlain.min {a b : Decimal} (ha : a.IsPlain) (hb : b.IsPlain) : (a.min b).IsPlain := by
  unfold Decimal.min
  split
  · exact hb
  · exact ha

theorem IsPlain.max {a b : Decimal} (ha : a.IsPlain) (hb : b.IsPlain) : (a.max b).IsPlain := by
  unfold Decimal.max
  split
  · exact hb
  · exact ha

theorem IsPlain.add? {a b c : Decimal} (ha : a.IsPlain) (hb : b.IsPlain)
    (h : Decimal.add? a b = some c) : c.IsPlain := by
  unfold Decimal.add? at h
  split at h
  · cases h
    exact hb
  · split at h
    · cases h
      exact ha
    · exact fit_isPlain h

theorem isPlain_neg_of_not_isZero {d : Decimal} (h : ¬d.isZero = true) : d.neg.IsPlain :=
  isPlain_of_not_isZero (d := d.neg) h

theorem IsPlain.sub? {a b c : Decimal} (ha : a.IsPlain) (hb : b.IsPlain)
    (h : Decimal.sub? a b = some c) : c.IsPlain := by
  unfold Decimal.sub? at h
  split at h
  · cases h
    split
    · exact hb
    · rename_i nonzero
      exact isPlain_neg_of_not_isZero nonzero
  · split at h
    · cases h
      exact ha
    · rename_i nonzero
      exact ha.add? (isPlain_neg_of_not_isZero nonzero) h

theorem mul?_isPlain {a b c : Decimal} (h : mul? a b = some c) : c.IsPlain := by
  unfold mul? at h
  split at h
  · cases h
    exact isPlain_zero
  · dsimp only at h
    split at h
    · cases h
      exact isPlain_zero
    · exact fit_isPlain h

theorem div?_isPlain {a b c : Decimal} (h : div? a b = some c) : c.IsPlain := by
  unfold div? at h
  split at h
  · cases h
  · split at h
    · cases h
      exact isPlain_zero
    · obtain ⟨quotient, -, h⟩ := Option.bind_eq_some_iff.1 h
      exact make?_isPlain h

/-! ## Digits -/

section Digits

variable {c : Char} {cs rest : List Char} {m scale : Nat}

theorem digit?_of_isDigit (h : c.isDigit = true) : digit? c = some (c.toNat - '0'.toNat) := by
  simp only [Char.isDigit, ge_iff_le, Bool.and_eq_true, decide_eq_true_eq] at h
  exact if_pos h

theorem ne_of_isDigit {x : Char} (h : c.isDigit = true) (other : x.isDigit = false) : c ≠ x := by
  rintro rfl
  rw [h] at other
  cases other

theorem le_ofDigitChars (cs : List Char) (m : Nat) : m ≤ Nat.ofDigitChars 10 cs m := by
  rw [Nat.ofDigitChars_eq_ofDigitChars_zero]
  calc
    m ≤ 10 ^ cs.length * m := Nat.le_mul_of_pos_left m (Nat.pow_pos (by decide))
    _ ≤ 10 ^ cs.length * m + Nat.ofDigitChars 10 cs 0 := Nat.le_add_right _ _

theorem readWhole?_digits (digits : ∀ c ∈ cs, c.isDigit = true) (started : Bool)
    (nonempty : cs ≠ []) (small : Nat.ofDigitChars 10 cs m < limit96) :
    readWhole? m started (cs ++ rest) = readWhole? (Nat.ofDigitChars 10 cs m) true rest := by
  induction cs generalizing m started with
  | nil => exact absurd rfl nonempty
  | cons c cs ih =>
    have digit : c.isDigit = true := digits c (by simp)
    have fits : m * 10 + (c.toNat - '0'.toNat) < limit96 := by
      rw [Nat.ofDigitChars_cons] at small
      rw [Nat.mul_comm]
      exact Nat.lt_of_le_of_lt (le_ofDigitChars cs _) small
    have taken : readWhole? m started (c :: (cs ++ rest)) =
        readWhole? (m * 10 + (c.toNat - '0'.toNat)) true (cs ++ rest) := by
      rw [readWhole?, digit?_of_isDigit digit]
      · simp only [ne_of_isDigit digit (x := '_') (by decide), if_false, if_pos fits]
      · exact fun point ↦ ne_of_isDigit digit (x := '.') (by decide) point
    rw [List.cons_append, taken, Nat.ofDigitChars_cons, Nat.mul_comm 10 m]
    rw [Nat.ofDigitChars_cons, Nat.mul_comm 10 m] at small
    by_cases last : cs = []
    · subst last
      rfl
    · exact ih (fun c mem ↦ digits c (by simp [mem])) true last small

theorem readFraction?_digits (digits : ∀ c ∈ cs, c.isDigit = true)
    (room : scale + cs.length ≤ 28) (small : Nat.ofDigitChars 10 cs m < limit96) :
    readFraction? m scale cs = some (Nat.ofDigitChars 10 cs m, scale + cs.length) := by
  induction cs generalizing m scale with
  | nil => rfl
  | cons c cs ih =>
    have digit : c.isDigit = true := digits c (by simp)
    rw [List.length_cons] at room
    rw [Nat.ofDigitChars_cons, Nat.mul_comm 10 m] at small
    have fits : m * 10 + (c.toNat - '0'.toNat) < limit96 :=
      Nat.lt_of_le_of_lt (le_ofDigitChars cs _) small
    have short : ¬scale = 28 := by omega
    rw [readFraction?, if_neg short, if_neg (ne_of_isDigit digit (x := '_') (by decide)),
      digit?_of_isDigit digit]
    simp only [if_pos fits]
    rw [ih (fun c mem ↦ digits c (by simp [mem])) (by omega) small, Nat.ofDigitChars_cons,
      Nat.mul_comm 10 m, List.length_cons]
    congr 2
    omega

end Digits

/-! ## Reading what was written -/

theorem isDigit_of_mem_paddedDigits {mantissa scale : Nat} {c : Char}
    (mem : c ∈ paddedDigits mantissa scale) : c.isDigit = true := by
  obtain pad | digit := List.mem_append.1 mem
  · rw [(List.mem_replicate.1 pad).2]
    rfl
  · exact Nat.isDigit_of_mem_toDigits (by decide) (by decide) digit

theorem ofDigitChars_paddedDigits (mantissa scale : Nat) :
    Nat.ofDigitChars 10 (paddedDigits mantissa scale) 0 = mantissa := by
  simp only [paddedDigits, Nat.ofDigitChars_append, Nat.ofDigitChars_replicate_zero, Nat.mul_zero]
  exact Nat.ofDigitChars_ten_toDigits

theorem isDigit_of_mem_wholeDigits {d : Decimal} {c : Char} (mem : c ∈ d.wholeDigits) :
    c.isDigit = true :=
  isDigit_of_mem_paddedDigits (List.mem_of_mem_take mem)

theorem isDigit_of_mem_fractionDigits {d : Decimal} {c : Char} (mem : c ∈ d.fractionDigits) :
    c.isDigit = true :=
  isDigit_of_mem_paddedDigits (List.mem_of_mem_drop mem)

theorem wholeDigits_ne_nil (d : Decimal) : d.wholeDigits ≠ [] := by
  have long := length_paddedDigits d.mantissa d.scale
  intro empty
  have length := congrArg List.length empty
  simp only [wholeDigits, List.length_take, List.length_nil] at length
  omega

/-- The digits of a decimal before and after the point are read as its mantissa and scale. -/
theorem readWhole?_render (d : Decimal) :
    readWhole? 0 false
        (d.wholeDigits ++ if d.fractionDigits.isEmpty then [] else '.' :: d.fractionDigits) =
      some (d.mantissa, d.scale) := by
  have value : Nat.ofDigitChars 10 d.fractionDigits (Nat.ofDigitChars 10 d.wholeDigits 0) =
      d.mantissa := by
    rw [← Nat.ofDigitChars_append, wholeDigits_append_fractionDigits, ofDigitChars_paddedDigits]
  have small : Nat.ofDigitChars 10 d.wholeDigits 0 < limit96 := by
    refine Nat.lt_of_le_of_lt ?_ d.mantissa_lt
    rw [← value]
    exact le_ofDigitChars _ _
  rw [readWhole?_digits (fun c ↦ isDigit_of_mem_wholeDigits) false (wholeDigits_ne_nil d) small]
  split
  · rename_i empty
    rw [List.isEmpty_iff] at empty
    have scale := length_fractionDigits d
    rw [empty] at value scale
    simp only [readWhole?, if_true]
    rw [← value, ← scale]
    rfl
  · have room : 0 + d.fractionDigits.length ≤ 28 := by
      rw [length_fractionDigits]
      simpa using d.scale_le
    have fits := d.mantissa_lt
    rw [← value] at fits
    simp only [readWhole?]
    rw [readFraction?_digits (fun c ↦ isDigit_of_mem_fractionDigits) room fits, value,
      length_fractionDigits, Nat.zero_add]

theorem splitSign_of_isDigit {c : Char} {cs : List Char} (digit : c.isDigit = true) :
    splitSign (c :: cs) = (false, c :: cs) := by
  rw [splitSign]
  · exact fun rest minus ↦ ne_of_isDigit digit (x := '-') (by decide) (List.cons.inj minus).1
  · exact fun rest plus ↦ ne_of_isDigit digit (x := '+') (by decide) (List.cons.inj plus).1

theorem splitSign_assemble (negative : Bool) {whole fraction : List Char}
    (digits : ∀ c ∈ whole, c.isDigit = true) (nonempty : whole ≠ []) :
    splitSign (assemble negative whole fraction) =
      (negative, whole ++ if fraction.isEmpty then [] else '.' :: fraction) := by
  cases negative with
  | true => simp [assemble, splitSign]
  | false =>
    obtain ⟨c, cs, rfl⟩ := List.exists_cons_of_ne_nil nonempty
    have digit : c.isDigit = true := digits c (by simp)
    simp only [assemble, Bool.false_eq_true, if_false, List.nil_append, List.cons_append]
    exact splitSign_of_isDigit digit

/-- The decimal without the sign of a zero. -/
def unsignedZero (d : Decimal) : Decimal :=
  { d with negative := d.negative && d.mantissa != 0 }

theorem unsignedZero_of_isPlain {d : Decimal} (plain : d.IsPlain) : d.unsignedZero = d := by
  have signed : (d.negative && d.mantissa != 0) = d.negative := by
    cases negative : d.negative with
    | false => rfl
    | true => simpa using plain negative
  rw [unsignedZero, signed]

/-- The text of a decimal is read as the decimal without the sign of a zero. -/
theorem parse?_render_unsignedZero (d : Decimal) : parse? d.render = some d.unsignedZero := by
  rw [parse?, render, String.toList_ofList, parseChars?,
    splitSign_assemble _ (fun c ↦ isDigit_of_mem_wholeDigits) (wholeDigits_ne_nil d)]
  simp only [Option.bind_eq_bind, readWhole?_render, Option.bind_some, make?]
  exact dif_pos ⟨d.mantissa_lt, d.scale_le⟩

theorem parse?_render {d : Decimal} (plain : d.IsPlain) : parse? d.render = some d := by
  rw [parse?_render_unsignedZero, unsignedZero_of_isPlain plain]

end TradingDesk.Decimal
