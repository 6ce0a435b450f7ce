import TradingDesk.Calendar.Date

/-!
# Instants

A point in time is a count of seconds since the start of 1970 in UTC and a count of nanoseconds.
A leap second is kept as a second 59 with more than a billion nanoseconds, so that it is written
back as second 60.  Instants are ordered by seconds and then nanoseconds.

Reading takes the date, the letter T or a blank, the time and an offset from UTC; writing gives UTC
with the fewest of 0, 3, 6 or 9 fraction digits that are exact.
-/

namespace TradingDesk

/-- A point in time, in UTC. -/
structure Instant where
  seconds : Int
  nanos : Nat
deriving DecidableEq, Repr

namespace Instant

instance : LE Instant :=
  ⟨fun a b ↦ a.seconds < b.seconds ∨ (a.seconds = b.seconds ∧ a.nanos ≤ b.nanos)⟩

instance (a b : Instant) : Decidable (a ≤ b) :=
  inferInstanceAs
    (Decidable (a.seconds < b.seconds ∨ (a.seconds = b.seconds ∧ a.nanos ≤ b.nanos)))

/-- The start of 1970. -/
def epoch : Instant := ⟨0, 0⟩

/-- The date in UTC. -/
def date (t : Instant) : Date :=
  ⟨t.seconds / 86400⟩

/-- The instant a whole number of seconds later. -/
def addSeconds (t : Instant) (seconds : Int) : Instant :=
  { t with seconds := t.seconds + seconds }

/-- The instant one nanosecond later. -/
def next (t : Instant) : Instant :=
  if t.nanos + 1 < 1000000000 then { t with nanos := t.nanos + 1 }
  else ⟨t.seconds + 1, 0⟩

/-- Seconds since midnight. -/
def secondOfDay (t : Instant) : Nat :=
  (t.seconds % 86400).toNat

/-! ## Writing -/

/-- The fraction of a second with the fewest exact group of three digits. -/
def fractionText (nanos : Nat) : String :=
  if nanos = 0 then ""
  else if nanos % 1000000 = 0 then "." ++ Date.padNat 3 (nanos / 1000000)
  else if nanos % 1000 = 0 then "." ++ Date.padNat 6 (nanos / 1000)
  else "." ++ Date.padNat 9 nanos

/-- The text up to the offset. -/
def clockText (t : Instant) : String :=
  let s := t.secondOfDay
  let leap := decide (1000000000 ≤ t.nanos)
  let second := s % 60 + (if leap then 1 else 0)
  let nanos := if leap then t.nanos - 1000000000 else t.nanos
  t.date.render ++ "T" ++ Date.padNat 2 (s / 3600) ++ ":" ++ Date.padNat 2 (s / 60 % 60) ++ ":" ++
    Date.padNat 2 second ++ fractionText nanos

/-- The text in UTC with the letter Z. -/
def render (t : Instant) : String :=
  t.clockText ++ "Z"

instance : ToString Instant := ⟨render⟩

/-- The text in UTC with a numeric offset, the form kept in the ledger. -/
def storedText (t : Instant) : String :=
  t.clockText ++ "+00:00"

/-- The text to the minute, `YYYY-MM-DD HH:MM`. -/
def minuteText (t : Instant) : String :=
  let s := t.secondOfDay
  t.date.render ++ " " ++ Date.padNat 2 (s / 3600) ++ ":" ++ Date.padNat 2 (s / 60 % 60)

/-- The text to the second, `YYYY-MM-DD HH:MM:SS`. -/
def secondText (t : Instant) : String :=
  t.minuteText ++ ":" ++
    Date.padNat 2 (t.secondOfDay % 60 + (if 1000000000 ≤ t.nanos then 1 else 0))

/-! ## Reading -/

/-- Takes the fraction of a second in nanoseconds; digits after the ninth are dropped. -/
def takeFraction? : List Char → Option (Nat × List Char)
  | '.' :: rest =>
    let digits := rest.takeWhile fun c ↦ (Decimal.digit? c).isSome
    match Date.takeNumber? 9 rest with
    | none => none
    | some (n, _) =>
      some (n * tens (9 - Min.min 9 digits.length), rest.drop digits.length)
  | rest => some (0, rest)

/-- A time of day in seconds and nanoseconds; second 60 is a leap second. -/
structure TimeOfDay where
  seconds : Nat
  nanos : Nat

/-- The time of day of its parts when it exists. -/
def TimeOfDay.make? (hour minute second nanos : Nat) : Option TimeOfDay :=
  if hour < 24 ∧ minute < 60 ∧ second ≤ 60 then
    if second = 60 then some ⟨hour * 3600 + minute * 60 + 59, nanos + 1000000000⟩
    else some ⟨hour * 3600 + minute * 60 + second, nanos⟩
  else
    none

/-- Takes hour and minute. -/
def takeHourMinute? (cs : List Char) : Option (Nat × Nat × List Char) := do
  let (hour, cs) ← Date.takeField? 2 cs
  let cs ← Date.takeChar? ':' (Text.trimStart cs)
  let (minute, cs) ← Date.takeField? 2 cs
  some (hour, minute, cs)

/-- Takes a time of day to the second, with an optional fraction. -/
def takeTime? (cs : List Char) : Option (TimeOfDay × List Char) := do
  let (hour, minute, cs) ← takeHourMinute? cs
  let cs ← Date.takeChar? ':' (Text.trimStart cs)
  let (second, cs) ← Date.takeField? 2 cs
  let (nanos, cs) ← takeFraction? cs
  let time ← TimeOfDay.make? hour minute second nanos
  some (time, cs)

/-- Takes two digits of a signed offset. -/
def takeTwoDigits? : List Char → Option (Nat × List Char)
  | a :: b :: rest => do
    let high ← Decimal.digit? a
    let low ← Decimal.digit? b
    some (high * 10 + low, rest)
  | _ => none

/-- Takes a numeric offset in seconds east of UTC, below a day. -/
def takeNumericOffset? (sign : Int) (cs : List Char) : Option (Int × List Char) := do
  let (hours, cs) ← takeTwoDigits? cs
  let (minutes, cs) ← takeTwoDigits? (cs.dropWhile fun c ↦ c == ':' || Text.isBlank c)
  if minutes < 60 ∧ hours < 24 then some (sign * (hours * 3600 + minutes * 60 : Nat), cs) else none

/-- Takes an offset from UTC: Z, the letters UTC or a signed number. -/
def takeOffset? (cs : List Char) : Option (Int × List Char) :=
  match cs with
  | 'Z' :: rest | 'z' :: rest => some (0, rest)
  | '+' :: rest => takeNumericOffset? 1 rest
  | '-' :: rest | '−' :: rest => takeNumericOffset? (-1) rest
  | u :: t :: c :: rest =>
    if [u, t, c].map Char.toUpper = ['U', 'T', 'C'] then some (0, rest) else none
  | _ => none

/-- The instant of a date and a time of day at an offset. -/
def ofLocal (date : Date) (time : TimeOfDay) (offset : Int) : Instant :=
  ⟨date.days * 86400 + time.seconds - offset, time.nanos⟩

/-- Takes the character between date and time. -/
def takeSeparator? : List Char → Option (List Char)
  | 'T' :: rest | 't' :: rest | ' ' :: rest => some rest
  | _ => none

/-- Reads an instant with its offset from UTC. -/
def parse? (s : String) : Option Instant := do
  let (date, cs) ← Date.take? s.toList
  let cs ← takeSeparator? cs
  let (time, cs) ← takeTime? cs
  let (offset, cs) ← takeOffset? (Text.trimStart cs)
  if (Text.trimStart cs).isEmpty then some (ofLocal date time offset) else none

/-- Takes a time of day to the minute or to the second. -/
def takeShortTime? (cs : List Char) : Option (TimeOfDay × List Char) :=
  match takeTime? cs with
  | some result => some result
  | none => do
    let (hour, minute, cs) ← takeHourMinute? cs
    let time ← TimeOfDay.make? hour minute 0 0
    some (time, cs)

/-- Reads the forms of an instant that a ledger row may hold: seconds and the offset are optional,
and without an offset the time is in UTC. -/
def parseStored? (s : String) : Option Instant := do
  let (date, cs) ← Date.take? s.toList
  let cs ← takeSeparator? cs
  let (time, cs) ← takeShortTime? cs
  if cs.isEmpty then some (ofLocal date time 0)
  else do
    let (offset, cs) ← takeOffset? cs
    if cs.isEmpty then some (ofLocal date time offset) else none

@[simp]
theorem date_addSeconds_zero (t : Instant) : (t.addSeconds 0).date = t.date := by
  simp [addSeconds]

end Instant

end TradingDesk
