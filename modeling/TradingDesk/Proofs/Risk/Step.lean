import Mathlib.Tactic.Common
import TradingDesk.Risk.Manager

/-!
# Steps of a Risk State

Every operation on a risk state rolls the state over and then changes some of its fields.  What it
changes is said once here, so that a law about states is proved from the changed fields alone.

Booking a result and setting a balance end alike: peak and drawdown are brought up to date, and the
breaker may trip.
-/

namespace TradingDesk.Risk.State

variable {s s' : State} {now : Instant}

/-! ## Rolling over -/

/-- Whether the week of a state is that of its day. -/
def IsDated (s : State) : Prop :=
  s.lastResetWeek = s.lastResetDate.isoWeek

theorem isDated_new (user : String) (balance : Decimal) (now : Instant) :
    (new user balance now).IsDated := rfl

theorem isDated_rollOver (s : State) (now : Instant) : (s.rollOver now).IsDated := by
  rw [IsDated, lastResetWeek_rollOver, lastResetDate_rollOver]

/-- A time on the day of a state starts neither a day nor a week. -/
theorem rollOver_of_today (dated : s.IsDated) (today : now.date = s.lastResetDate) :
    s.rollOver now = s := by
  have sameDay : s.toDay now.date = s := if_pos today
  have sameWeek : now.date.isoWeek = s.lastResetWeek := by rw [today, dated]
  rw [rollOver, sameDay, toWeek, if_pos sameWeek]

/-- A time on another day starts a day, and then a week if it is in another one. -/
theorem rollOver_of_other_day (other : now.date ≠ s.lastResetDate) :
    s.rollOver now = (s.startDay now.date).toWeek now.date.isoWeek := by
  rw [rollOver, toDay, if_neg other]

/-! ## Entries -/

theorem count?_eq_some {bound n m : Nat} (h : count? bound n = some m) : m = n + 1 := by
  unfold count? at h
  split at h
  · exact (Option.some.inj h).symm
  · cases h

/-- An entry raises the three counters. -/
theorem recordEntry?_eq_some (h : s.recordEntry? now = some s') :
    s' = { s.rollOver now with
      dailyTrades := (s.rollOver now).dailyTrades + 1
      weeklyTrades := (s.rollOver now).weeklyTrades + 1
      totalTrades := (s.rollOver now).totalTrades + 1
      updatedAt := now } := by
  obtain ⟨daily, raisedDaily, h⟩ := Option.bind_eq_some_iff.1 h
  obtain ⟨weekly, raisedWeekly, h⟩ := Option.bind_eq_some_iff.1 h
  obtain ⟨total, raisedTotal, h⟩ := Option.bind_eq_some_iff.1 h
  obtain rfl := count?_eq_some raisedDaily
  obtain rfl := count?_eq_some raisedWeekly
  obtain rfl := count?_eq_some raisedTotal
  cases h
  rfl

/-! ## Results and balances -/

/-- What becomes of a state with a new balance: its peak is at least the balance, its drawdown is
measured from the peak, and its breaker is what it was or trips now. -/
structure Measured (s s' : State) (now : Instant) : Prop where
  eq : s' = { s with
    peakBalance := s'.peakBalance
    drawdown := s'.drawdown
    breaker := s'.breaker }
  peak : s.balance ≤ s'.peakBalance
  drawdown : drawdownOf? s'.peakBalance s.balance = some s'.drawdown
  breaker : s'.breaker = s.breaker ∨ ∃ reason, s'.breaker = Breaker.trip reason now

theorem checkBreaker?_eq_some {limit : Decimal} (h : s.checkBreaker? limit now = some s') :
    s' = { s with breaker := s'.breaker } ∧
      (s'.breaker = s.breaker ∨ ∃ reason, s'.breaker = Breaker.trip reason now) := by
  unfold checkBreaker? at h
  split at h
  · cases h
    exact ⟨rfl, .inl rfl⟩
  · obtain ⟨ratio, -, h⟩ := Option.bind_eq_some_iff.1 h
    split at h
    · obtain ⟨reason, -, h⟩ := Option.bind_eq_some_iff.1 h
      cases h
      exact ⟨rfl, .inr ⟨reason, rfl⟩⟩
    · cases h
      exact ⟨rfl, .inl rfl⟩

theorem withDrawdown?_eq_some (h : s.withDrawdown? = some s') :
    s' = { s with peakBalance := s'.peakBalance, drawdown := s'.drawdown } ∧
      s.balance ≤ s'.peakBalance ∧
      drawdownOf? s'.peakBalance s.balance = some s'.drawdown := by
  obtain ⟨drawdown, fallen, h⟩ := Option.bind_eq_some_iff.1 h
  cases h
  refine ⟨rfl, ?_, fallen⟩
  change s.balance ≤ if s.peakBalance < s.balance then s.balance else s.peakBalance
  split
  · exact Int.le_refl _
  · rename_i below
    exact Decimal.not_lt.1 below

theorem measured_of_checked {limit : Decimal} {between : State}
    (fallen : s.withDrawdown? = some between) (h : between.checkBreaker? limit now = some s') :
    Measured s s' now := by
  obtain ⟨first, peak, drawdown⟩ := withDrawdown?_eq_some fallen
  obtain ⟨second, breaker⟩ := checkBreaker?_eq_some h
  have peaks : s'.peakBalance = between.peakBalance := by rw [second]
  have drawdowns : s'.drawdown = between.drawdown := by rw [second]
  refine ⟨?_, ?_, ?_, ?_⟩
  · rw [second, first]
  · rwa [peaks]
  · rwa [peaks, drawdowns]
  · rwa [first] at breaker

/-- A result is added to the balance and to the results of the day and the week, and a loss to the
losses of the day. -/
theorem recordTrade?_eq_some {profit limit : Decimal}
    (h : s.recordTrade? profit limit now = some s') :
    ∃ balance daily weekly losses,
      lossesAfter? (s.rollOver now).dailyLosses profit = some losses ∧
        Measured { s.rollOver now with
          balance := balance
          dailyProfit := daily
          weeklyProfit := weekly
          dailyLosses := losses
          updatedAt := now } s' now := by
  obtain ⟨balance, -, h⟩ := Option.bind_eq_some_iff.1 h
  obtain ⟨daily, -, h⟩ := Option.bind_eq_some_iff.1 h
  obtain ⟨weekly, -, h⟩ := Option.bind_eq_some_iff.1 h
  obtain ⟨losses, lost, h⟩ := Option.bind_eq_some_iff.1 h
  obtain ⟨between, fallen, h⟩ := Option.bind_eq_some_iff.1 h
  exact ⟨balance, daily, weekly, losses, lost, measured_of_checked fallen h⟩

/-- A balance that is set becomes the start of a day and of a week that started at zero. -/
theorem setBalance?_eq_some {balance limit : Decimal}
    (h : s.setBalance? balance limit now = some s') :
    ∃ dayStart weekStart, Measured { s.rollOver now with
      balance := balance
      dayStartBalance := dayStart
      weekStartBalance := weekStart
      updatedAt := now } s' now := by
  obtain ⟨between, fallen, h⟩ := Option.bind_eq_some_iff.1 h
  exact ⟨_, _, measured_of_checked fallen h⟩

end TradingDesk.Risk.State
