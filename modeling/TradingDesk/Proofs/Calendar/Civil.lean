import TradingDesk.Proofs.Calendar.Week

/-!
# Year, Month and Day of a Date

Every date has a year, a month and a day of that month, and it is their date.  Within 400 years a day
is found by its century, the four years and the year in which it lies and its number from the first of
March on.  A year has a day 365 of this number only when it ends with a 29th of February.
-/

namespace TradingDesk.Date

/-! ## Days of 400 years -/

/-- Where a day lies within 400 years that begin in March. -/
structure EraDay where
  century : Nat
  fourYears : Nat
  year : Nat
  dayOfYear : Nat
  century_lt : century < 4
  fourYears_lt : fourYears < 25
  year_lt : year < 4
  dayOfYear_le : dayOfYear ≤ 365
  leap : dayOfYear = 365 → year = 3 ∧ (fourYears = 24 → century = 3)

namespace EraDay

/-- The number of the day from the first of March of the first year on. -/
def number (e : EraDay) : Nat :=
  36524 * e.century + 1461 * e.fourYears + 365 * e.year + e.dayOfYear

/-- The number of the year. -/
def yearOfEra (e : EraDay) : Nat :=
  100 * e.century + 4 * e.fourYears + e.year

theorem exists_number {n : Nat} (small : n < 146097) : ∃ e : EraDay, e.number = n := by
  by_cases last : n = 146096
  · subst last
    exact ⟨⟨3, 24, 3, 365, by decide, by decide, by decide, by decide, by decide⟩, rfl⟩
  · by_cases ends : n % 36524 % 1461 = 1460
    · refine ⟨⟨n / 36524, n % 36524 / 1461, 3, 365, ?_, ?_, ?_, ?_, ?_⟩, ?_⟩
      iterate 5 omega
      change 36524 * (n / 36524) + 1461 * (n % 36524 / 1461) + 365 * 3 + 365 = n
      omega
    · refine ⟨⟨n / 36524, n % 36524 / 1461, n % 36524 % 1461 / 365, n % 36524 % 1461 % 365,
        ?_, ?_, ?_, ?_, ?_⟩, ?_⟩
      iterate 5 omega
      change 36524 * (n / 36524) + 1461 * (n % 36524 / 1461) +
        365 * (n % 36524 % 1461 / 365) + n % 36524 % 1461 % 365 = n
      omega

/-- The year is found from the number of the day without leap days. -/
theorem yearOfEra_eq (e : EraDay) :
    (e.number - e.number / 1460 + e.number / 36524 - e.number / 146096) / 365 = e.yearOfEra := by
  obtain ⟨century, fourYears, year, dayOfYear, hc, hf, hy, hd, leap⟩ := e
  unfold number yearOfEra
  dsimp only
  generalize number : 36524 * century + 1461 * fourYears + 365 * year + dayOfYear = n
  have centuries : n / 36524 = century ∨ n = 146096 ∧ century = 3 := by omega
  have eras : n / 146096 = 0 ∨ n = 146096 := by omega
  have leapDays : n / 1460 = 25 * century + fourYears ∨ n / 1460 = 25 * century + fourYears + 1 := by
    omega
  obtain centuries | last := centuries
  · obtain eras | last := eras
    · rw [centuries, eras]
      omega
    · omega
  · omega

theorem yearOfEra_lt (e : EraDay) : e.yearOfEra < 400 := by
  have := e.century_lt
  have := e.fourYears_lt
  have := e.year_lt
  unfold yearOfEra
  omega

theorem number_eq (e : EraDay) :
    e.number = 365 * e.yearOfEra + e.yearOfEra / 4 - e.yearOfEra / 100 + e.dayOfYear := by
  have := e.century_lt
  have := e.fourYears_lt
  have := e.year_lt
  unfold number yearOfEra
  omega

end EraDay

/-! ## Months -/

/-- The number of a month from March on, by a day of the year that begins in March. -/
def monthIndex (dayOfYear : Nat) : Nat :=
  (5 * dayOfYear + 2) / 153

/-- A month by its number from March on. -/
def monthOf (index : Nat) : Nat :=
  if index < 10 then index + 3 else index - 9

theorem daysBeforeMarchMonth_le (dayOfYear : Nat) :
    daysBeforeMarchMonth (monthIndex dayOfYear) ≤ dayOfYear := by
  unfold daysBeforeMarchMonth monthIndex
  omega

theorem monthIndex_lt {dayOfYear : Nat} (small : dayOfYear ≤ 365) : monthIndex dayOfYear < 12 := by
  unfold monthIndex
  omega

theorem monthOf_bounds {index : Nat} (small : index < 12) :
    1 ≤ monthOf index ∧ monthOf index ≤ 12 ∧ (monthOf index + 9) % 12 = index ∧
      (monthOf index ≤ 2 ↔ 10 ≤ index) := by
  unfold monthOf
  split <;> omega

/-- A day of the year is a day of its month, the last of them only in a leap year. -/
theorem dayOfMonth_le {dayOfYear : Nat} {year : Int} (small : dayOfYear ≤ 365)
    (leap : dayOfYear = 365 → isLeapYear year = true) :
    dayOfYear - daysBeforeMarchMonth (monthIndex dayOfYear) + 1 ≤
      daysInMonth year (monthOf (monthIndex dayOfYear)) := by
  have within : 5 * dayOfYear + 2 < 153 * (monthIndex dayOfYear + 1) := by
    unfold monthIndex
    omega
  have from_ : 153 * monthIndex dayOfYear ≤ 5 * dayOfYear + 2 := by
    unfold monthIndex
    omega
  generalize monthIndex dayOfYear = index at within from_
  unfold daysInMonth daysBeforeMarchMonth monthOf
  obtain early | late := Nat.lt_or_ge index 10
  · rw [if_pos early, if_neg (by omega)]
    split <;> omega
  · rw [if_neg (Nat.not_lt.2 late)]
    obtain rfl | rfl : index = 10 ∨ index = 11 := by omega
    · rw [if_neg (by decide), if_neg (by decide)]
      omega
    · rw [if_pos rfl]
      by_cases last : dayOfYear = 365
      · rw [if_pos (leap last)]
        omega
      · split <;> omega

/-! ## Dates -/

/-- The parts of a date from its place within 400 years. -/
theorem civil_eq {d : Date} {e : EraDay} (placed : (e.number : Int) = (d.days + 719468) % 146097) :
    d.civil =
      { year := (if monthOf (monthIndex e.dayOfYear) ≤ 2 then
          (e.yearOfEra : Int) + (d.days + 719468) / 146097 * 400 + 1
        else (e.yearOfEra : Int) + (d.days + 719468) / 146097 * 400)
        month := monthOf (monthIndex e.dayOfYear)
        day := e.dayOfYear - daysBeforeMarchMonth (monthIndex e.dayOfYear) + 1 } := by
  have number : ((d.days + 719468) % 146097).toNat = e.number := by omega
  have dayOfYear : e.number -
      (365 * e.yearOfEra + e.yearOfEra / 4 - e.yearOfEra / 100) = e.dayOfYear := by
    rw [e.number_eq]
    omega
  unfold civil
  dsimp only
  rw [number, e.yearOfEra_eq, dayOfYear]
  rfl

/-- The leap day that ends a year is the 29th of February of a leap year. -/
theorem EraDay.isLeapYear (e : EraDay) (last : e.dayOfYear = 365) (era : Int) :
    isLeapYear ((e.yearOfEra : Int) + era * 400 + 1) = true := by
  obtain ⟨year, century⟩ := e.leap last
  have := e.century_lt
  have := e.fourYears_lt
  unfold Date.isLeapYear EraDay.yearOfEra
  rw [year, Bool.and_eq_true, Bool.or_eq_true, beq_iff_eq, bne_iff_ne, beq_iff_eq]
  omega

theorem exists_eraDay (d : Date) :
    ∃ e : EraDay, (e.number : Int) = (d.days + 719468) % 146097 := by
  have small : ((d.days + 719468) % 146097).toNat < 146097 := by omega
  obtain ⟨e, number⟩ := EraDay.exists_number small
  exact ⟨e, by omega⟩

/-- A date is that of its year, month and day. -/
theorem ofCivil_civil (d : Date) : ofCivil d.civil = d := by
  obtain ⟨e, placed⟩ := d.exists_eraDay
  have index := monthIndex_lt e.dayOfYear_le
  obtain ⟨-, -, month, early⟩ := monthOf_bounds index
  have days := daysBeforeMarchMonth_le e.dayOfYear
  have year : (if monthOf (monthIndex e.dayOfYear) ≤ 2 then
      (if monthOf (monthIndex e.dayOfYear) ≤ 2 then
        (e.yearOfEra : Int) + (d.days + 719468) / 146097 * 400 + 1
      else (e.yearOfEra : Int) + (d.days + 719468) / 146097 * 400) - 1
      else (if monthOf (monthIndex e.dayOfYear) ≤ 2 then
        (e.yearOfEra : Int) + (d.days + 719468) / 146097 * 400 + 1
      else (e.yearOfEra : Int) + (d.days + 719468) / 146097 * 400)) =
      (e.yearOfEra : Int) + (d.days + 719468) / 146097 * 400 := by
    split <;> omega
  have era := e.yearOfEra_lt
  have number := e.number_eq
  rw [civil_eq placed]
  unfold ofCivil
  dsimp only
  rw [year, month, daysBeforeMarchYear_add]
  cases d
  apply congrArg Date.mk
  unfold daysBeforeMarchYear
  dsimp only at placed ⊢
  omega

/-- The day of a date is one of its month. -/
theorem civil_bounds (d : Date) : 1 ≤ d.civil.month ∧ d.civil.month ≤ 12 ∧ 1 ≤ d.civil.day ∧
    d.civil.day ≤ daysInMonth d.civil.year d.civil.month := by
  obtain ⟨e, placed⟩ := d.exists_eraDay
  obtain ⟨first, last, -, early⟩ := monthOf_bounds (monthIndex_lt e.dayOfYear_le)
  rw [civil_eq placed]
  refine ⟨first, last, Nat.succ_pos _, dayOfMonth_le e.dayOfYear_le ?_⟩
  intro leap
  have february : monthOf (monthIndex e.dayOfYear) ≤ 2 := by
    rw [leap]
    decide
  rw [if_pos february]
  exact e.isLeapYear leap _

/-- Whether the calendar reaches to a date. -/
def IsInRange (d : Date) : Prop :=
  -262143 ≤ d.civil.year ∧ d.civil.year ≤ 262142

instance (d : Date) : Decidable d.IsInRange :=
  inferInstanceAs (Decidable (_ ∧ _))

theorem ofCivil?_civil {d : Date} (inRange : d.IsInRange) : ofCivil? d.civil = some d := by
  obtain ⟨first, last, day, within⟩ := d.civil_bounds
  rw [ofCivil?, if_pos ⟨inRange.1, inRange.2, first, last, day, within⟩, ofCivil_civil]

/-! ## Bounds -/

/-- A year has about 365 days. -/
theorem civil_year_near (d : Date) :
    400 * (d.days + 719468) < 146097 * (d.civil.year + 400) ∧
      146097 * (d.civil.year - 400) ≤ 400 * (d.days + 719468) := by
  obtain ⟨e, placed⟩ := d.exists_eraDay
  have era := e.yearOfEra_lt
  rw [civil_eq placed]
  dsimp only
  split <;> omega

/-- The week of a date that the calendar reaches to fits words of 32 bits. -/
theorem isoWeek_bounds {d : Date} (inRange : d.IsInRange) :
    -2147483648 ≤ d.isoWeek.year ∧ d.isoWeek.year < 2147483648 ∧ d.isoWeek.number < limit32 := by
  obtain ⟨low, high⟩ := inRange
  obtain ⟨before, after⟩ := d.civil_year_near
  obtain ⟨before', after'⟩ := d.thursday.civil_year_near
  have thursday := d.thursday_days
  have newYear := newYear_days d.thursday.civil.year
  rw [isoWeek_eq]
  unfold daysBeforeMarchYear at newYear
  unfold limit32
  dsimp only
  generalize d.thursday.civil.year = year at *
  generalize d.civil.year = own at *
  generalize d.thursday.days = days at *
  generalize (Date.newYear year).days = start at *
  refine ⟨?_, ?_, ?_⟩
  · omega
  · omega
  · omega

end TradingDesk.Date
