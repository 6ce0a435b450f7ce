import TradingDesk.Proofs.Risk.DailyCount

/-!
# Reported Trips

Booking a result tells whether the result tripped the breaker.  The answer compares the breaker after
the call with the breaker as it was last left, and the call rolls the day over in between.  On the
first result of a day a breaker that was left on is cleared and may trip again, and that trip is not
reported.

Every report is a trip.  A trip goes unreported exactly when another day left the breaker on and the
result alone reaches the limit of the new day.
-/

namespace TradingDesk.Risk

/-! ## Trips of a state -/

namespace State

variable {s s' : State} {profit limit : Decimal} {now : Instant}

/-- Whether another day left the breaker on. -/
def LeftOn (s : State) (now : Instant) : Prop :=
  s.breaker.tripped ∧ now.date ≠ s.lastResetDate

/-- The loss of the first result of a day as a share of the balance before it. -/
def openingLossRatio? (s : State) (profit : Decimal) : Option Decimal :=
  (lossesAfter? Decimal.zero profit).bind fun losses ↦
    dailyLossRatio? { s with dayStartBalance := s.balance, dailyLosses := losses }

/-- A new day clears the breaker that another day left on, and nothing else clears it. -/
theorem tripped_rollOver (s : State) (now : Instant) :
    (s.rollOver now).breaker.tripped ↔ s.breaker.tripped ∧ ¬s.LeftOn now := by
  rw [rollOver, breaker_toWeek, toDay, LeftOn]
  by_cases today : now.date = s.lastResetDate
  · rw [if_pos today]
    exact ⟨fun tripped ↦ ⟨tripped, fun left ↦ left.2 today⟩, And.left⟩
  · rw [if_neg today]
    exact ⟨fun tripped ↦ absurd tripped Bool.false_ne_true, fun kept ↦ absurd ⟨kept.1, today⟩ kept.2⟩

/-- A breaker that is off trips at its check exactly when the losses reach the limit. -/
theorem tripped_checkBreaker?_iff (off : ¬s.breaker.tripped)
    (h : s.checkBreaker? limit now = some s') :
    s'.breaker.tripped ↔ ∃ ratio, s.dailyLossRatio? = some ratio ∧ limit ≤ ratio := by
  rw [checkBreaker?, if_neg off] at h
  obtain ⟨ratio, measured, h⟩ := Option.bind_eq_some_iff.1 h
  split at h
  case isTrue reached =>
    obtain ⟨reason, -, h⟩ := Option.bind_eq_some_iff.1 h
    cases h
    exact ⟨fun _ ↦ ⟨ratio, measured, reached⟩, fun _ ↦ rfl⟩
  case isFalse below =>
    cases h
    refine ⟨fun tripped ↦ absurd tripped off, ?_⟩
    rintro ⟨ratio', measured', reached⟩
    cases measured.symm.trans measured'
    exact absurd reached below

theorem dailyLosses_toWeek (s : State) (week : Date.Week) :
    (s.toWeek week).dailyLosses = s.dailyLosses := by
  unfold toWeek
  split <;> rfl

theorem dayStartBalance_toWeek (s : State) (week : Date.Week) :
    (s.toWeek week).dayStartBalance = s.dayStartBalance := by
  unfold toWeek
  split <;> rfl

/-- Booking a result checks the breaker against the losses with the result. -/
theorem recordTrade?_checks (h : s.recordTrade? profit limit now = some s') :
    ∃ (losses : Decimal) (before : State),
      lossesAfter? (s.rollOver now).dailyLosses profit = some losses ∧
      before.dailyLosses = losses ∧
      before.dayStartBalance = (s.rollOver now).dayStartBalance ∧
      before.breaker = (s.rollOver now).breaker ∧
      before.checkBreaker? limit now = some s' := by
  obtain ⟨balance, -, h⟩ := Option.bind_eq_some_iff.1 h
  obtain ⟨daily, -, h⟩ := Option.bind_eq_some_iff.1 h
  obtain ⟨weekly, -, h⟩ := Option.bind_eq_some_iff.1 h
  obtain ⟨losses, lost, h⟩ := Option.bind_eq_some_iff.1 h
  obtain ⟨before, fallen, h⟩ := Option.bind_eq_some_iff.1 h
  obtain ⟨eq, -, -⟩ := withDrawdown?_eq_some fallen
  refine ⟨losses, before, lost, ?_, ?_, ?_, h⟩ <;> rw [eq]

/-- The first result of a day halts trading exactly when it alone reaches the limit. -/
theorem tripped_recordTrade?_iff (other : now.date ≠ s.lastResetDate)
    (h : s.recordTrade? profit limit now = some s') :
    s'.breaker.tripped ↔ ∃ ratio, s.openingLossRatio? profit = some ratio ∧ limit ≤ ratio := by
  obtain ⟨losses, before, lost, losses', start, breaker, checked⟩ := recordTrade?_checks h
  rw [rollOver_of_other_day other, dailyLosses_toWeek] at lost
  rw [rollOver_of_other_day other, dayStartBalance_toWeek] at start
  rw [rollOver_of_other_day other, breaker_toWeek] at breaker
  have off : ¬before.breaker.tripped := by
    rw [breaker]
    exact Bool.false_ne_true
  have ratio : before.dailyLossRatio? = s.openingLossRatio? profit := by
    change lossesAfter? Decimal.zero profit = some losses at lost
    rw [openingLossRatio?, lost, dailyLossRatio?, start, losses']
    rfl
  rw [tripped_checkBreaker?_iff off checked, ratio]

end State

/-! ## Reports of a manager -/

namespace Manager

variable {m m' : Manager} {user : String} {profit : Decimal} {now : Instant} {reported : Bool}

/-- Whether the breaker of a user is off at a time; that of an unknown user is. -/
def IsClear (m : Manager) (user : String) (now : Instant) : Prop :=
  ∀ s, m.state? user now = some s → ¬s.breaker.tripped

/-- Whether the breaker of a user is on. -/
def IsHalted (m : Manager) (user : String) : Prop :=
  ∃ s, m.stored? user = some s ∧ s.breaker.tripped

/-- Whether a user was left halted by another day and loses, with the first result of a day, the
share of the balance that halts trading. -/
def Relapses (m : Manager) (user : String) (profit : Decimal) (now : Instant) : Prop :=
  ∃ s ratio, m.stored? user = some s ∧ s.LeftOn now ∧
    s.openingLossRatio? profit = some ratio ∧ (m.settingsOf user).breakerLossShare ≤ ratio

/-- The answer is read off the breaker as it was last left and the breaker after the call. -/
theorem recordTrade?_reported (h : m.recordTrade? user profit now = some (m', reported)) :
    reported = true ↔ ¬m.IsHalted user ∧ m'.IsHalted user := by
  obtain ⟨s', -, h⟩ := Option.bind_eq_some_iff.1 h
  cases h
  have after : (m.file user s').IsHalted user ↔ s'.breaker.tripped := by
    simp [IsHalted]
  have before : ((m.stored? user).getD (State.new user Decimal.zero now)).breaker.tripped ↔
      m.IsHalted user := by
    rw [IsHalted]
    cases m.stored? user with
    | none => simp [State.new, Breaker.clear]
    | some s => simp
  rw [after, ← before, Bool.and_eq_true, Bool.not_eq_true', Bool.not_eq_true]

theorem isClear_of_not_isHalted (off : ¬m.IsHalted user) : m.IsClear user now := by
  intro s rolled tripped
  obtain ⟨stored, known, rfl⟩ := Option.map_eq_some_iff.1 rolled
  exact off ⟨stored, known, ((State.tripped_rollOver stored now).1 tripped).1⟩

/-- A user who is halted and yet clear at a time was left halted by another day. -/
theorem IsClear.leftOn {s : State} (clear : m.IsClear user now) (known : m.stored? user = some s)
    (tripped : s.breaker.tripped) : s.LeftOn now := by
  have rolled : m.state? user now = some (s.rollOver now) := by
    rw [state?, known]
    rfl
  by_contra kept
  exact clear _ rolled ((State.tripped_rollOver s now).2 ⟨tripped, kept⟩)

/-- Booking a result after a breaker was left on halts the user exactly on a relapse. -/
theorem isHalted_iff_relapses {s : State} (known : m.stored? user = some s) (left : s.LeftOn now)
    (h : m.recordTrade? user profit now = some (m', reported)) :
    m'.IsHalted user ↔ m.Relapses user profit now := by
  obtain ⟨s', recorded, rfl⟩ := recordTrade?_cases h
  rw [known, Option.getD_some] at recorded
  have halted := State.tripped_recordTrade?_iff left.2 recorded
  constructor
  · rintro ⟨t, known', tripped⟩
    rw [stored?_file_self] at known'
    cases known'
    obtain ⟨ratio, lost, reached⟩ := halted.1 tripped
    exact ⟨s, ratio, known, left, lost, reached⟩
  · rintro ⟨t, ratio, known', -, lost, reached⟩
    cases known.symm.trans known'
    exact ⟨s', stored?_file_self m user s', halted.2 ⟨ratio, lost, reached⟩⟩

/-- The answer to a result is that the user was clear at its time and is halted after it, except on a
relapse, which is such a trip and is not reported. -/
theorem reports_trips_but_relapses (h : m.recordTrade? user profit now = some (m', reported)) :
    (reported = true ↔
        m.IsClear user now ∧ m'.IsHalted user ∧ ¬m.Relapses user profit now) ∧
      (m.Relapses user profit now → m.IsClear user now ∧ m'.IsHalted user) := by
  have answer := recordTrade?_reported h
  have relapse : m.Relapses user profit now → m.IsClear user now ∧ m'.IsHalted user := by
    rintro ⟨s, ratio, known, left, lost, reached⟩
    refine ⟨?_, (isHalted_iff_relapses known left h).2 ⟨s, ratio, known, left, lost, reached⟩⟩
    intro t rolled tripped
    rw [state?, known] at rolled
    cases rolled
    exact ((State.tripped_rollOver s now).1 tripped).2 left
  refine ⟨?_, relapse⟩
  rw [answer]
  constructor
  · rintro ⟨off, halted⟩
    refine ⟨isClear_of_not_isHalted off, halted, ?_⟩
    rintro ⟨s, ratio, known, left, -⟩
    exact off ⟨s, known, left.1⟩
  · rintro ⟨clear, halted, noRelapse⟩
    refine ⟨?_, halted⟩
    rintro ⟨s, known, tripped⟩
    have left := clear.leftOn known tripped
    exact noRelapse ((isHalted_iff_relapses known left h).1 halted)

/-- A balance of 1000 and a loss of a tenth of it on one day. -/
def haltedDay : List Request :=
  [.call (.balance "u" (Decimal.const 1000 0) (.noon 0)),
    .call (.trade "u" (Decimal.const 100 0).neg (.noon 0))]

/-- The loss that halts the user is reported. -/
theorem reports_trips_but_relapses_haltedDay :
    ∃ m m', (new Settings.standard).serveAll? (haltedDay.take 1) = some m ∧
      m.recordTrade? "u" (Decimal.const 100 0).neg (.noon 0) = some (m', true) ∧
      m.IsClear "u" (.noon 0) ∧ m'.IsHalted "u" := by
  have ran : ((new Settings.standard).serveAll? (haltedDay.take 1)).any (fun m ↦
      (m.recordTrade? "u" (Decimal.const 100 0).neg (.noon 0)).any (·.2)) := by
    decide +kernel
  obtain ⟨m, run, ran⟩ := (Option.any_eq_true _ _).1 ran
  obtain ⟨⟨m', reported⟩, booked, told⟩ := (Option.any_eq_true _ _).1 ran
  obtain rfl : reported = true := told
  obtain ⟨clear, halted, -⟩ := (reports_trips_but_relapses booked).1.1 rfl
  exact ⟨m, m', run, booked, clear, halted⟩

/-- The same loss on the next day, over a breaker that the first day left on, halts the user again
and is not reported. -/
theorem trip_can_go_unreported :
    ∃ m m', (new Settings.standard).serveAll? haltedDay = some m ∧
      m.recordTrade? "u" (Decimal.const 100 0).neg (.noon 1) = some (m', false) ∧
      m.IsClear "u" (.noon 1) ∧ m'.IsHalted "u" := by
  have ran : ((new Settings.standard).serveAll? haltedDay).any (fun m ↦
      (m.state? "u" (.noon 1)).any (fun s ↦ !s.breaker.tripped) &&
        (m.recordTrade? "u" (Decimal.const 100 0).neg (.noon 1)).any (fun answer ↦
          !answer.2 && (answer.1.stored? "u").any (·.breaker.tripped))) := by
    decide +kernel
  obtain ⟨m, run, ran⟩ := (Option.any_eq_true _ _).1 ran
  obtain ⟨clear, ran⟩ := (Bool.and_eq_true _ _).mp ran
  obtain ⟨⟨m', reported⟩, booked, ran⟩ := (Option.any_eq_true _ _).1 ran
  obtain ⟨untold, halted⟩ := (Bool.and_eq_true _ _).mp ran
  obtain rfl : reported = false := (Bool.not_eq_true' _).mp untold
  obtain ⟨rolled, known, off⟩ := (Option.any_eq_true _ _).1 clear
  obtain ⟨s, known', tripped⟩ := (Option.any_eq_true _ _).1 halted
  refine ⟨m, m', run, booked, ?_, s, known', tripped⟩
  intro t known''
  cases known.symm.trans known''
  exact ne_true_of_eq_false ((Bool.not_eq_true' _).mp off)

end Manager

end TradingDesk.Risk
