import TradingDesk.Decimal.Text
import TradingDesk.Text.Blank

/-!
# Calendar Dates

A date of the proleptic Gregorian calendar is the count of days since the first of January 1970, so
that order and distance are those of integers.  Years of 400 have a fixed length, which turns the
count into year, month and day and back by division.  Weeks follow ISO 8601: they begin on Monday
and belong to the year of their Thursday.

Limits of trading days and weeks are compared through `Date` and `Date.isoWeek`.
-/

namespace TradingDesk

/-- A calendar date as days since 1970-01-01. -/
structure Date where
  days : Int
deriving DecidableEq, Repr

namespace Date

/-- Year, month and day. -/
structure Civil where
  year : Int
  month : Nat
  day : Nat
deriving DecidableEq, Repr

/-- Days before a year that starts in March, counted from the first of March of year zero. -/
def daysBeforeMarchYear (year : Int) : Int :=
  year * 365 + year / 4 - year / 100 + year / 400

/-- Days of the months before the `index`-th month after March. -/
def daysBeforeMarchMonth (index : Nat) : Nat :=
  (153 * index + 2) / 5

/-- The date of year, month and day, without a check of their ranges. -/
def ofCivil (c : Civil) : Date :=
  let year := if c.month ≤ 2 then c.year - 1 else c.year
  let index := (c.month + 9) % 12
  ⟨daysBeforeMarchYear year + daysBeforeMarchMonth index + (c.day : Int) - 1 - 719468⟩

/-- The year, month and day of a date. -/
def civil (d : Date) : Civil :=
  let shifted := d.days + 719468
  let era := shifted / 146097
  let dayOfEra := (shifted % 146097).toNat
  let yearOfEra := (dayOfEra - dayOfEra / 1460 + dayOfEra / 36524 - dayOfEra / 146096) / 365
  let dayOfYear := dayOfEra - (365 * yearOfEra + yearOfEra / 4 - yearOfEra / 100)
  let index := (5 * dayOfYear + 2) / 153
  let month := if index < 10 then index + 3 else index - 9
  let year := (yearOfEra : Int) + era * 400
  { year := if month ≤ 2 then year + 1 else year
    month := month
    day := dayOfYear - daysBeforeMarchMonth index + 1 }

/-- Whether a year has a 29th of February. -/
def isLeapYear (year : Int) : Bool :=
  year % 4 == 0 && (year % 100 != 0 || year % 400 == 0)

/-- The number of days of a month. -/
def daysInMonth (year : Int) (month : Nat) : Nat :=
  if month = 2 then if isLeapYear year then 29 else 28
  else if month = 4 ∨ month = 6 ∨ month = 9 ∨ month = 11 then 30
  else 31

/-- The date of year, month and day when it exists. -/
def ofCivil? (c : Civil) : Option Date :=
  if -262143 ≤ c.year ∧ c.year ≤ 262142 ∧ 1 ≤ c.month ∧ c.month ≤ 12 ∧ 1 ≤ c.day ∧
      c.day ≤ daysInMonth c.year c.month then
    some (ofCivil c)
  else
    none

/-- Days since Monday. -/
def weekday (d : Date) : Nat :=
  ((d.days + 3) % 7).toNat

/-- A week of the ISO calendar. -/
structure Week where
  year : Int
  number : Nat
deriving DecidableEq, Repr

/-- The ISO week of a date: the week of its Thursday, counted in that day's year. -/
def isoWeek (d : Date) : Week :=
  let thursday : Date := ⟨d.days - d.weekday + 3⟩
  let year := thursday.civil.year
  let newYear := ofCivil ⟨year, 1, 1⟩
  ⟨year, ((thursday.days - newYear.days) / 7).toNat + 1⟩

/-! ## Text -/

/-- A natural number with at least `width` digits. -/
def padNat (width n : Nat) : String :=
  let digits := Nat.toDigits 10 n
  String.ofList (List.replicate (width - digits.length) '0' ++ digits)

/-- A year with four digits, signed outside of their range. -/
def yearText (year : Int) : String :=
  if 0 ≤ year ∧ year ≤ 9999 then padNat 4 year.toNat
  else (if year < 0 then "-" else "+") ++ padNat 4 year.natAbs

/-- The text `YYYY-MM-DD`. -/
def render (d : Date) : String :=
  let c := d.civil
  yearText c.year ++ "-" ++ padNat 2 c.month ++ "-" ++ padNat 2 c.day

instance : ToString Date := ⟨render⟩

/-- Takes between one and `width` digits. -/
def takeNumber? (width : Nat) (cs : List Char) : Option (Nat × List Char) :=
  let digits := (cs.take width).takeWhile fun c ↦ (Decimal.digit? c).isSome
  if digits.isEmpty then none
  else
    let n := digits.foldl (fun n c ↦ n * 10 + (Decimal.digit? c).getD 0) 0
    some (n, cs.drop digits.length)

/-- Takes a number of at most `width` digits after optional white space. -/
def takeField? (width : Nat) (cs : List Char) : Option (Nat × List Char) :=
  takeNumber? width (Text.trimStart cs)

/-- Takes a year: four digits, or any number of digits after a sign. -/
def takeYear? (cs : List Char) : Option (Int × List Char) :=
  match Text.trimStart cs with
  | '-' :: rest => (takeNumber? rest.length rest).map fun (n, rest) ↦ (-(n : Int), rest)
  | '+' :: rest => (takeNumber? rest.length rest).map fun (n, rest) ↦ ((n : Int), rest)
  | rest => (takeNumber? 4 rest).map fun (n, rest) ↦ ((n : Int), rest)

/-- Takes one given character. -/
def takeChar? (c : Char) : List Char → Option (List Char)
  | [] => none
  | x :: rest => if x = c then some rest else none

/-- Takes a date at the start of the characters. -/
def take? (cs : List Char) : Option (Date × List Char) := do
  let (year, cs) ← takeYear? cs
  let cs ← takeChar? '-' (Text.trimStart cs)
  let (month, cs) ← takeField? 2 cs
  let cs ← takeChar? '-' (Text.trimStart cs)
  let (day, cs) ← takeField? 2 cs
  let date ← ofCivil? ⟨year, month, day⟩
  some (date, cs)

/-- Reads a date. -/
def parse? (s : String) : Option Date := do
  let (date, rest) ← take? s.toList
  if (Text.trimStart rest).isEmpty then some date else none

end Date

end TradingDesk
