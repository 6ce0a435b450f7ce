import TradingDesk.Proofs.Calendar.Civil
import TradingDesk.Proofs.Text.Digits

/-!
# Text of Dates and Instants

The text of a date and that of an instant are read back, when the calendar reaches to the date and
the nanoseconds are those of a clock.  A clock counts a second of leap only at the end of a minute.

A number with leading zeros is read by its width, so that two digits can follow one another without
a sign between them.  Only a year beyond four digits and a fraction of a second end at what follows
them.
-/

namespace TradingDesk

namespace Date

variable {width n : Nat} {digits rest : List Char}

/-! ## Numbers -/

/-- The digits of a number with at least a width. -/
def padDigits (width n : Nat) : List Char :=
  List.replicate (width - (Nat.toDigits 10 n).length) '0' ++ Nat.toDigits 10 n

theorem toList_padNat (width n : Nat) : (padNat width n).toList = padDigits width n := by
  rw [padNat, String.toList_ofList, padDigits]

theorem isDigit_padDigits (width n : Nat) : ∀ c ∈ padDigits width n, c.isDigit = true := by
  intro c mem
  obtain pad | digit := List.mem_append.1 mem
  · rw [List.eq_of_mem_replicate pad]
    rfl
  · exact isDigit_toDigits n c digit

theorem padDigits_ne_nil (width n : Nat) : padDigits width n ≠ [] :=
  List.append_ne_nil_of_right_ne_nil _ Nat.toDigits_ne_nil

theorem value_padDigits (width n : Nat) : Nat.ofDigitChars 10 (padDigits width n) 0 = n := by
  rw [padDigits, Nat.ofDigitChars_append, Nat.ofDigitChars_replicate_zero, Nat.mul_zero]
  exact Nat.ofDigitChars_ten_toDigits

theorem length_padDigits (positive : 0 < width) (small : n < tens width) :
    (padDigits width n).length = width := by
  have short : (Nat.toDigits 10 n).length ≤ width :=
    (Nat.length_toDigits_le_iff (by decide) positive).2 small
  rw [padDigits, List.length_append, List.length_replicate]
  omega

/-- A run of digits is taken when it fills the width or no digit follows it. -/
theorem takeNumber?_digits (isDigit : ∀ c ∈ digits, c.isDigit = true) (nonempty : digits ≠ [])
    (short : digits.length ≤ width) (ends : digits.length = width ∨ EndsDigits rest) :
    takeNumber? width (digits ++ rest) = some (Nat.ofDigitChars 10 digits 0, rest) := by
  have taken : ((digits ++ rest).take width).takeWhile (fun c ↦ (Decimal.digit? c).isSome) =
      digits := by
    rw [List.take_append, List.take_of_length_le short]
    change List.takeWhile Binary64.isDigit _ = digits
    rw [funext Binary64.isDigit_eq]
    obtain full | ends := ends
    · rw [full, Nat.sub_self, List.take_zero]
      exact takeWhile_digits isDigit endsDigits_nil
    · apply takeWhile_digits isDigit
      intro c mem
      cases room : width - digits.length with
      | zero =>
        rw [room] at mem
        cases mem
      | succ k =>
        cases rest with
        | nil =>
          rw [room] at mem
          cases mem
        | cons x rest =>
          rw [room] at mem
          exact ends c mem
  have value := Binary64.foldl_digits isDigit 0
  unfold takeNumber?
  simp only [taken, value, List.isEmpty_eq_false_iff.2 nonempty, List.drop_left]
  rfl

theorem takeNumber?_padDigits (positive : 0 < width) (small : n < tens width)
    (rest : List Char) : takeNumber? width (padDigits width n ++ rest) = some (n, rest) := by
  have full := length_padDigits positive small
  rw [takeNumber?_digits (isDigit_padDigits width n) (padDigits_ne_nil width n)
    (Nat.le_of_eq full) (.inl full), value_padDigits]

theorem trimStart_cons {c : Char} (solid : Text.isBlank c = false) :
    Text.trimStart (c :: rest) = c :: rest := by
  rw [Text.trimStart, List.dropWhile_cons_of_neg (by simp [solid])]

theorem isBlank_of_isDigit {c : Char} (digit : c.isDigit = true) : Text.isBlank c = false := by
  simp only [Char.isDigit, ge_iff_le, Bool.and_eq_true, decide_eq_true_eq] at digit
  obtain ⟨low, high⟩ := digit
  have low : 48 ≤ c.toNat := low
  have high : c.toNat ≤ 57 := high
  simp only [Text.isBlank, Text.blankRanges, List.any_cons, List.any_nil, Bool.or_false,
    Bool.or_eq_false_iff, decide_eq_false_iff_not]
  omega

theorem trimStart_digits (isDigit : ∀ c ∈ digits, c.isDigit = true) (nonempty : digits ≠ []) :
    Text.trimStart (digits ++ rest) = digits ++ rest := by
  obtain ⟨c, cs, rfl⟩ := List.exists_cons_of_ne_nil nonempty
  exact trimStart_cons (isBlank_of_isDigit (isDigit c List.mem_cons_self))

/-- A number of two digits is taken as a field. -/
theorem takeField?_padDigits (small : n < 100) (rest : List Char) :
    takeField? 2 (padDigits 2 n ++ rest) = some (n, rest) := by
  rw [takeField?, trimStart_digits (isDigit_padDigits 2 n) (padDigits_ne_nil 2 n)]
  exact takeNumber?_padDigits (by decide) small rest

theorem takeChar?_self (c : Char) (rest : List Char) : takeChar? c (c :: rest) = some rest :=
  if_pos rfl

/-! ## Dates -/

/-- Without a sign a year has four digits. -/
theorem takeYear?_digits (isDigit : ∀ c ∈ digits, c.isDigit = true) (nonempty : digits ≠ []) :
    takeYear? (digits ++ rest) =
      (takeNumber? 4 (digits ++ rest)).map fun (n, rest) ↦ ((n : Int), rest) := by
  rw [takeYear?, trimStart_digits isDigit nonempty]
  obtain ⟨c, cs, rfl⟩ := List.exists_cons_of_ne_nil nonempty
  have digit : c.isDigit = true := isDigit c List.mem_cons_self
  rw [List.cons_append]
  split
  · rename_i minus
    exact absurd (List.cons.inj minus).1 (Decimal.ne_of_isDigit digit (by decide))
  · rename_i plus
    exact absurd (List.cons.inj plus).1 (Decimal.ne_of_isDigit digit (by decide))
  · rfl

/-- A year is taken when a dash follows. -/
theorem takeYear?_yearText (year : Int) (rest : List Char) :
    takeYear? ((yearText year).toList ++ '-' :: rest) = some (year, '-' :: rest) := by
  unfold yearText
  split
  · rename_i plain
    have small : year.toNat < tens 4 := show year.toNat < 10000 by omega
    rw [toList_padNat, takeYear?_digits (isDigit_padDigits 4 _) (padDigits_ne_nil 4 _),
      takeNumber?_padDigits (by decide) small, Option.map_some]
    simp only [Int.toNat_of_nonneg plain.1]
  · have taken : takeNumber? (padDigits 4 year.natAbs ++ '-' :: rest).length
        (padDigits 4 year.natAbs ++ '-' :: rest) = some (year.natAbs, '-' :: rest) := by
      rw [takeNumber?_digits (isDigit_padDigits 4 _) (padDigits_ne_nil 4 _)
        (by rw [List.length_append]; omega) (.inr (endsDigits_cons rfl)), value_padDigits]
    rw [String.toList_append, toList_padNat]
    split
    · rename_i below
      change takeYear? ('-' :: (padDigits 4 year.natAbs ++ '-' :: rest)) = _
      rw [takeYear?, trimStart_cons (by decide)]
      simp only [taken, Option.map_some]
      congr 2
      omega
    · rename_i above
      change takeYear? ('+' :: (padDigits 4 year.natAbs ++ '-' :: rest)) = _
      rw [takeYear?, trimStart_cons (by decide)]
      simp only [taken, Option.map_some]
      congr 2
      omega

/-- A date is taken from the front of a text. -/
theorem take?_render {d : Date} (inRange : d.IsInRange) (rest : List Char) :
    take? (d.render.toList ++ rest) = some (d, rest) := by
  obtain ⟨-, month, -, day⟩ := d.civil_bounds
  have days : daysInMonth d.civil.year d.civil.month ≤ 31 := by
    unfold daysInMonth
    split
    · split <;> omega
    · split <;> omega
  have text : d.render.toList ++ rest = (yearText d.civil.year).toList ++ '-' ::
      (padDigits 2 d.civil.month ++ '-' :: (padDigits 2 d.civil.day ++ rest)) := by
    simp [render, toList_padNat]
  rw [text, take?, takeYear?_yearText]
  simp only [Option.bind_eq_bind, Option.bind_some,
    trimStart_cons (show Text.isBlank '-' = false by decide),
    takeChar?_self, takeField?_padDigits (show d.civil.month < 100 by omega),
    takeField?_padDigits (show d.civil.day < 100 by omega), ofCivil?_civil inRange]

theorem parse?_render {d : Date} (inRange : d.IsInRange) : parse? d.render = some d := by
  have taken := take?_render inRange []
  rw [List.append_nil] at taken
  rw [parse?, taken]
  rfl

end Date

namespace Instant

variable {t : Instant} {rest : List Char}

/-- Whether a clock can show the instant: the calendar reaches to its date, and a second longer than
a second ends a minute. -/
structure IsClock (t : Instant) : Prop where
  date : t.date.IsInRange
  nanos : t.nanos < 1000000000 ∨ (t.nanos < 2000000000 ∧ t.seconds % 60 = 59)

instance (t : Instant) : Decidable t.IsClock :=
  decidable_of_iff (t.date.IsInRange ∧
      (t.nanos < 1000000000 ∨ (t.nanos < 2000000000 ∧ t.seconds % 60 = 59)))
    ⟨fun h ↦ ⟨h.1, h.2⟩, fun h ↦ ⟨h.date, h.nanos⟩⟩

/-- Digits after the point are taken in nanoseconds. -/
theorem takeFraction?_padDigits {width n : Nat} (positive : 0 < width) (short : width ≤ 9)
    (small : n < tens width) (ends : EndsDigits rest) :
    takeFraction? ('.' :: (Date.padDigits width n ++ rest)) =
      some (n * tens (9 - width), rest) := by
  have digits := Date.isDigit_padDigits width n
  have full := Date.length_padDigits positive small
  have taken : (Date.padDigits width n ++ rest).takeWhile (fun c ↦ (Decimal.digit? c).isSome) =
      Date.padDigits width n := by
    change List.takeWhile Binary64.isDigit _ = _
    rw [funext Binary64.isDigit_eq, takeWhile_digits digits ends]
  have value := Date.takeNumber?_digits digits (Date.padDigits_ne_nil width n)
    (Nat.le_trans (Nat.le_of_eq full) short) (.inr ends)
  rw [Date.value_padDigits] at value
  have after : (Date.padDigits width n ++ rest).drop width = rest := List.drop_left' full
  rw [takeFraction?]
  simp only [taken, value, full, Nat.min_eq_right short, after]

/-- A fraction of a second is taken when neither a digit nor a point follows. -/
theorem takeFraction?_fractionText {nanos : Nat} (small : nanos < 1000000000)
    (ends : EndsDigits rest) (point : ∀ after, rest ≠ '.' :: after) :
    takeFraction? ((fractionText nanos).toList ++ rest) = some (nanos, rest) := by
  have pointed (width n : Nat) : ("." ++ Date.padNat width n).toList ++ rest =
      '.' :: (Date.padDigits width n ++ rest) := by
    rw [String.toList_append, Date.toList_padNat]
    rfl
  unfold fractionText
  split
  · rename_i whole
    rw [whole]
    change takeFraction? rest = _
    rw [takeFraction?]
    exact point
  · split
    · rw [pointed, takeFraction?_padDigits (by decide) (by decide)
        (show nanos / 1000000 < 1000 by omega) ends]
      congr 2
      change nanos / 1000000 * 1000000 = nanos
      omega
    · split
      · rw [pointed, takeFraction?_padDigits (by decide) (by decide)
          (show nanos / 1000 < 1000000 by omega) ends]
        congr 2
        change nanos / 1000 * 1000 = nanos
        omega
      · rw [pointed, takeFraction?_padDigits (by decide) (by decide)
          (show nanos < 1000000000 by omega) ends]
        congr 2
        exact Nat.mul_one nanos

/-- The second that a clock shows, 60 for a second of leap. -/
def shownSecond (t : Instant) : Nat :=
  t.secondOfDay % 60 + (if 1000000000 ≤ t.nanos then 1 else 0)

/-- The nanoseconds that a clock shows. -/
def shownNanos (t : Instant) : Nat :=
  if 1000000000 ≤ t.nanos then t.nanos - 1000000000 else t.nanos

theorem secondOfDay_lt (t : Instant) : t.secondOfDay < 86400 := by
  unfold secondOfDay
  omega

/-- What a clock shows is the time of day of the instant. -/
theorem make?_shown (clock : t.IsClock) :
    TimeOfDay.make? (t.secondOfDay / 3600) (t.secondOfDay / 60 % 60) t.shownSecond t.shownNanos =
      some ⟨t.secondOfDay, t.nanos⟩ := by
  have day := t.secondOfDay_lt
  have minute : t.seconds % 60 = 59 → t.secondOfDay % 60 = 59 := by
    unfold secondOfDay
    omega
  have nanos := clock.nanos
  unfold TimeOfDay.make? shownSecond shownNanos
  by_cases leap : 1000000000 ≤ t.nanos
  · have last : t.secondOfDay % 60 = 59 := minute (by omega)
    rw [if_pos leap, if_pos leap, last, if_pos (by omega), if_pos rfl]
    congr 2 <;> omega
  · rw [if_neg leap, if_neg leap, if_pos (by omega), if_neg (by omega)]
    congr 2
    omega

/-- The text of an instant in characters. -/
theorem toList_clockText (t : Instant) : t.clockText.toList =
    t.date.render.toList ++ 'T' :: (Date.padDigits 2 (t.secondOfDay / 3600) ++ ':' ::
      (Date.padDigits 2 (t.secondOfDay / 60 % 60) ++ ':' :: (Date.padDigits 2 t.shownSecond ++
        (fractionText t.shownNanos).toList))) := by
  simp [clockText, Date.toList_padNat, shownSecond, shownNanos]

theorem takeTime?_shown (clock : t.IsClock) (ends : EndsDigits rest)
    (point : ∀ after, rest ≠ '.' :: after) :
    takeTime? (Date.padDigits 2 (t.secondOfDay / 3600) ++ ':' ::
      (Date.padDigits 2 (t.secondOfDay / 60 % 60) ++ ':' :: (Date.padDigits 2 t.shownSecond ++
        ((fractionText t.shownNanos).toList ++ rest)))) =
      some (⟨t.secondOfDay, t.nanos⟩, rest) := by
  have day := t.secondOfDay_lt
  have second : t.shownSecond < 100 := by
    unfold shownSecond
    split <;> omega
  have nanos : t.shownNanos < 1000000000 := by
    have := clock.nanos
    unfold shownNanos
    split <;> omega
  have colon : Text.isBlank ':' = false := by decide
  rw [takeTime?, takeHourMinute?]
  simp only [Option.bind_eq_bind, Option.bind_some, Date.trimStart_cons colon,
    Date.takeChar?_self, Date.takeField?_padDigits (show t.secondOfDay / 3600 < 100 by omega),
    Date.takeField?_padDigits (show t.secondOfDay / 60 % 60 < 100 by omega),
    Date.takeField?_padDigits second, takeFraction?_fractionText nanos ends point,
    make?_shown clock]

/-- The text of an instant is read back. -/
theorem parse?_render (clock : t.IsClock) : parse? t.render = some t := by
  have text : t.render.toList = t.date.render.toList ++ 'T' ::
      (Date.padDigits 2 (t.secondOfDay / 3600) ++ ':' ::
        (Date.padDigits 2 (t.secondOfDay / 60 % 60) ++ ':' :: (Date.padDigits 2 t.shownSecond ++
          ((fractionText t.shownNanos).toList ++ ['Z'])))) := by
    rw [render, String.toList_append, toList_clockText]
    simp
  have zone : Text.trimStart ['Z'] = ['Z'] := Date.trimStart_cons (by decide)
  have same : ofLocal t.date ⟨t.secondOfDay, t.nanos⟩ 0 = t := by
    have seconds : t.seconds / 86400 * 86400 + (t.secondOfDay : Int) - 0 = t.seconds := by
      unfold secondOfDay
      omega
    exact congrArg (Instant.mk · t.nanos) seconds
  rw [parse?, text, Date.take?_render clock.date]
  simp only [Option.bind_eq_bind, Option.bind_some, takeSeparator?,
    takeTime?_shown clock (endsDigits_cons (show 'Z'.isDigit = false by decide)) (by simp), zone,
    takeOffset?, same]
  rfl

end Instant

end TradingDesk
