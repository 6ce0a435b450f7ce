import Mathlib.Tactic.Common
import TradingDesk.Calendar.Instant

/-!
# Weeks of Dates

A week is that of its Thursday, and its number counts from the first of January of the Thursday's
year.  That day is never after the Thursday, so that two dates are in one week only if they have the
same Thursday.  A date between two dates of one week is therefore in that week as well, around the
end of a year too.

The dates of instants in order are in order.
-/

namespace TradingDesk

namespace Date

instance : LE Date :=
  ⟨fun a b ↦ a.days ≤ b.days⟩

instance (a b : Date) : Decidable (a ≤ b) :=
  inferInstanceAs (Decidable (a.days ≤ b.days))

variable {a b c d : Date}

theorem le_def : a ≤ b ↔ a.days ≤ b.days := Iff.rfl

theorem le_refl (a : Date) : a ≤ a := Int.le_refl a.days

theorem le_trans (h : a ≤ b) (h' : b ≤ c) : a ≤ c := Int.le_trans h h'

theorem le_antisymm (h : a ≤ b) (h' : b ≤ a) : a = b := by
  cases a
  cases b
  exact congrArg Date.mk (Int.le_antisymm h h')

/-! ## The first day of a year -/

/-- The first of January of a year. -/
def newYear (year : Int) : Date :=
  ofCivil ⟨year, 1, 1⟩

theorem newYear_days (year : Int) :
    (newYear year).days = daysBeforeMarchYear (year - 1) + 306 - 719468 := by
  have march : daysBeforeMarchMonth ((1 + 9) % 12) = 306 := rfl
  unfold newYear ofCivil
  dsimp only
  rw [if_pos (by decide : (1 : Nat) ≤ 2), march]
  omega

/-- Years of 400 have a fixed length. -/
theorem daysBeforeMarchYear_add (year era : Int) :
    daysBeforeMarchYear (year + era * 400) = daysBeforeMarchYear year + era * 146097 := by
  unfold daysBeforeMarchYear
  omega

/-- The first of January of the year of a date is not after the date. -/
theorem newYear_civil_le (d : Date) : newYear d.civil.year ≤ d := by
  rw [le_def, newYear_days]
  unfold civil
  generalize shifted : d.days + 719468 = n
  have day : ((n % 146097).toNat : Int) = n % 146097 := Int.toNat_of_nonneg (by omega)
  have small : (n % 146097).toNat < 146097 := by omega
  dsimp only
  generalize (n % 146097).toNat = k at day small ⊢
  -- this bounds the days before the year, which began in March, closely enough for January
  have estimate : 365 * ((k - k / 1460 + k / 36524 - k / 146096) / 365) +
      (k - k / 1460 + k / 36524 - k / 146096) / 365 / 4 ≤
        k + (k - k / 1460 + k / 36524 - k / 146096) / 365 / 100 + 30 := by omega
  have bound : (k - k / 1460 + k / 36524 - k / 146096) / 365 < 400 := by omega
  generalize (k - k / 1460 + k / 36524 - k / 146096) / 365 = y at estimate bound ⊢
  generalize counted : k - (365 * y + y / 4 - y / 100) = dayOfYear
  generalize named : (if (5 * dayOfYear + 2) / 153 < 10 then (5 * dayOfYear + 2) / 153 + 3
    else (5 * dayOfYear + 2) / 153 - 9) = month
  by_cases early : month ≤ 2
  · have late : 306 ≤ dayOfYear := by split at named <;> omega
    have year : (y : Int) + n / 146097 * 400 + 1 - 1 = y + n / 146097 * 400 := by omega
    rw [if_pos early, year, daysBeforeMarchYear_add]
    unfold daysBeforeMarchYear
    omega
  · have year : (y : Int) + n / 146097 * 400 - 1 = y - 1 + n / 146097 * 400 := by omega
    rw [if_neg early, year, daysBeforeMarchYear_add]
    unfold daysBeforeMarchYear
    omega

/-! ## Thursdays -/

/-- The Thursday of the week of a date. -/
def thursday (d : Date) : Date :=
  ⟨d.days - d.weekday + 3⟩

theorem thursday_days (d : Date) : d.thursday.days = (d.days + 3) / 7 * 7 := by
  have nonneg : (((d.days + 3) % 7).toNat : Int) = (d.days + 3) % 7 :=
    Int.toNat_of_nonneg (by omega)
  change d.days - (((d.days + 3) % 7).toNat : Int) + 3 = _
  omega

theorem thursday_mono (h : a ≤ b) : a.thursday ≤ b.thursday := by
  rw [le_def] at h ⊢
  rw [thursday_days, thursday_days]
  omega

theorem isoWeek_eq (d : Date) : d.isoWeek =
    ⟨d.thursday.civil.year,
      ((d.thursday.days - (newYear d.thursday.civil.year).days) / 7).toNat + 1⟩ := rfl

/-- Dates of one week have one Thursday. -/
theorem thursday_eq_of_isoWeek_eq (same : a.isoWeek = b.isoWeek) : a.thursday = b.thursday := by
  have ha := newYear_civil_le a.thursday
  have hb := newYear_civil_le b.thursday
  rw [isoWeek_eq, isoWeek_eq, Week.mk.injEq] at same
  obtain ⟨year, number⟩ := same
  rw [le_def, year] at ha
  rw [le_def] at hb
  rw [year] at number
  have da := thursday_days a
  have db := thursday_days b
  have days : a.thursday.days = b.thursday.days := by omega
  exact le_antisymm (Int.le_of_eq days) (Int.le_of_eq days.symm)

/-- A date between two dates of one week is in that week. -/
theorem isoWeek_eq_of_between (h : a ≤ b) (h' : b ≤ c) (same : a.isoWeek = c.isoWeek) :
    b.isoWeek = c.isoWeek := by
  have ends := thursday_eq_of_isoWeek_eq same
  have above : b.thursday ≤ c.thursday := thursday_mono h'
  have below : c.thursday ≤ b.thursday := by
    rw [← ends]
    exact thursday_mono h
  rw [isoWeek_eq, isoWeek_eq, le_antisymm above below]

end Date

namespace Instant

variable {a b c : Instant}

theorem le_refl (a : Instant) : a ≤ a := .inr ⟨rfl, Nat.le_refl a.nanos⟩

theorem le_trans (h : a ≤ b) (h' : b ≤ c) : a ≤ c := by
  change _ ∨ _ at h h' ⊢
  omega

theorem date_mono (h : a ≤ b) : a.date ≤ b.date := by
  change _ ∨ _ at h
  change a.seconds / 86400 ≤ b.seconds / 86400
  omega

/-- Noon on a day, counted from the first of January 1970. -/
def noon (days : Int) : Instant :=
  ⟨days * 86400 + 43200, 0⟩

@[simp]
theorem date_noon (days : Int) : (noon days).date = ⟨days⟩ := by
  have day : (days * 86400 + 43200) / 86400 = days := by omega
  rw [date, noon, day]

end Instant

end TradingDesk
