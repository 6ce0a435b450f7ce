import TradingDesk.Proofs.Calendar.Week
import TradingDesk.Proofs.Decimal.Portion
import TradingDesk.Proofs.Decimal.Quotient
import TradingDesk.Proofs.Risk.Step

/-!
# Consistent Risk States

The operations on a risk state change overlapping parts of it, and a day and a week end
independently of each other.  Seven relations between the fields hold nevertheless after any
operations, with any amounts and limits and at times in any order.

The counters of the day and the week stay in order because a week never ends without a day: the week
of a state is that of its day, so a time in another week is on another day as well.
-/

namespace TradingDesk.Risk

/-- Whether a breaker is on just when it has both a reason and a time. -/
def Breaker.IsExplained (b : Breaker) : Prop :=
  b.tripped ↔ b.reason.isSome ∧ b.since.isSome

theorem Breaker.isExplained_clear : Breaker.clear.IsExplained := by
  simp [IsExplained, Breaker.clear]

theorem Breaker.isExplained_trip (reason : String) (now : Instant) :
    (Breaker.trip reason now).IsExplained := by
  simp [IsExplained, Breaker.trip]

namespace State

variable {s s' : State} {now : Instant}

/-! ## Relations between the fields -/

/-- Whether a drawdown is the drop from a peak to a balance as a share of the peak. -/
def IsDrawdown (peak balance drawdown : Decimal) : Prop :=
  (peak ≤ Decimal.zero → drawdown.value = 0) ∧
    (Decimal.zero < peak → ∃ drop share, Decimal.sub? peak balance = some drop ∧
      Decimal.div? drop peak = some share ∧ drawdown.value = share.value ∧ 0 ≤ share.value)

/-- The relations that do not involve the balance. -/
structure IsCounted (s : State) : Prop where
  losses : Decimal.zero ≤ s.dailyLosses
  daily : s.dailyTrades ≤ s.weeklyTrades
  weekly : s.weeklyTrades ≤ s.totalTrades
  dated : s.IsDated
  breaker : s.breaker.IsExplained

/-- All relations between the fields of a state. -/
structure IsConsistent (s : State) : Prop extends IsCounted s where
  peak : s.balance ≤ s.peakBalance
  drawdown : IsDrawdown s.peakBalance s.balance s.drawdown

/-! ## Drawdowns -/

/-- A balance has not dropped from itself. -/
theorem isDrawdown_self (balance : Decimal) : IsDrawdown balance balance Decimal.zero := by
  refine ⟨fun _ ↦ Decimal.value_zero, ?_⟩
  intro positive
  have none : |balance.value - balance.value| ≤ 1 := by
    rw [sub_self, abs_zero]
    exact zero_le_one
  obtain ⟨drop, dropped⟩ := Decimal.sub?_defined none
  have nothing : drop.value = 0 := by
    rw [Decimal.value_sub? none dropped, sub_self]
  have nonzero : ¬balance.isZero = true := by
    rw [Decimal.isZero_iff]
    rw [Decimal.lt_iff, Decimal.value_zero] at positive
    exact positive.ne'
  refine ⟨drop, Decimal.zero, dropped, ?_, rfl, Decimal.value_zero.ge⟩
  rw [Decimal.div?, if_neg nonzero, if_pos (Decimal.isZero_iff.2 nothing)]

/-- Below its peak a balance has a drawdown that is not negative. -/
theorem isDrawdown_of_drawdownOf? {peak balance drawdown : Decimal} (le : balance ≤ peak)
    (h : drawdownOf? peak balance = some drawdown) : IsDrawdown peak balance drawdown := by
  unfold drawdownOf? at h
  split at h
  · rename_i positive
    refine ⟨fun nonpositive ↦ absurd positive (Decimal.not_lt.2 nonpositive), fun _ ↦ ?_⟩
    obtain ⟨drop, dropped, h⟩ := Option.bind_eq_some_iff.1 h
    obtain ⟨share, shared, h⟩ := Option.bind_eq_some_iff.1 h
    cases h
    have nonneg : 0 ≤ share.value := by
      apply Decimal.div?_nonneg _ _ shared
      · exact Decimal.sub?_nonneg (Decimal.le_iff.1 le) dropped
      · rw [Decimal.lt_iff, Decimal.value_zero] at positive
        exact positive.le
    refine ⟨drop, share, dropped, shared, ?_, nonneg⟩
    rw [Decimal.value_max, Decimal.value_zero, max_eq_left nonneg]
  · rename_i nonpositive
    cases h
    exact ⟨fun _ ↦ Decimal.value_zero, fun positive ↦ absurd positive nonpositive⟩

/-! ## Operations -/

theorem isConsistent_new (user : String) (balance : Decimal) (now : Instant) :
    (new user balance now).IsConsistent where
  losses := Int.le_refl _
  daily := Nat.le_refl 0
  weekly := Nat.le_refl 0
  dated := isDated_new user balance now
  breaker := Breaker.isExplained_clear
  peak := Decimal.le_iff.2 le_rfl
  drawdown := isDrawdown_self balance

/-- On another day the counter of the day is zero, whether a week starts or not. -/
theorem IsConsistent.rollOver (kept : s.IsConsistent) (now : Instant) :
    (s.rollOver now).IsConsistent := by
  have dated := isDated_rollOver s now
  by_cases today : now.date = s.lastResetDate
  · rwa [rollOver_of_today kept.dated today]
  · rw [rollOver_of_other_day today] at dated ⊢
    unfold toWeek at dated ⊢
    split at dated
    case isTrue same =>
      rw [if_pos same]
      exact
        { losses := Int.le_refl _
          daily := Nat.zero_le _
          weekly := kept.weekly
          dated := dated
          breaker := Breaker.isExplained_clear
          peak := kept.peak
          drawdown := kept.drawdown }
    case isFalse another =>
      rw [if_neg another]
      exact
        { losses := Int.le_refl _
          daily := Nat.le_refl 0
          weekly := Nat.zero_le _
          dated := dated
          breaker := Breaker.isExplained_clear
          peak := kept.peak
          drawdown := kept.drawdown }

theorem IsConsistent.recordEntry? (kept : s.IsConsistent) (h : s.recordEntry? now = some s') :
    s'.IsConsistent := by
  have rolled := kept.rollOver now
  rw [recordEntry?_eq_some h]
  exact
    { losses := rolled.losses
      daily := Nat.succ_le_succ rolled.daily
      weekly := Nat.succ_le_succ rolled.weekly
      dated := rolled.dated
      breaker := rolled.breaker
      peak := rolled.peak
      drawdown := rolled.drawdown }

/-- Measuring a balance brings the relations that involve it about. -/
theorem IsCounted.isConsistent (kept : s.IsCounted) (h : Measured s s' now) :
    s'.IsConsistent := by
  have balance : s'.balance = s.balance := by rw [h.eq]
  have losses : s'.dailyLosses = s.dailyLosses := by rw [h.eq]
  have daily : s'.dailyTrades = s.dailyTrades := by rw [h.eq]
  have weekly : s'.weeklyTrades = s.weeklyTrades := by rw [h.eq]
  have total : s'.totalTrades = s.totalTrades := by rw [h.eq]
  have dated : s'.IsDated := by
    rw [h.eq]
    exact kept.dated
  refine ⟨⟨?_, ?_, ?_, dated, ?_⟩, ?_, ?_⟩
  · rw [losses]
    exact kept.losses
  · rw [daily, weekly]
    exact kept.daily
  · rw [weekly, total]
    exact kept.weekly
  · obtain same | ⟨reason, tripped⟩ := h.breaker
    · rw [same]
      exact kept.breaker
    · rw [tripped]
      exact Breaker.isExplained_trip reason now
  · rw [balance]
    exact h.peak
  · rw [balance]
    exact isDrawdown_of_drawdownOf? h.peak h.drawdown

/-- Only results below zero are added to the losses of the day. -/
theorem lossesAfter?_nonneg {losses profit after : Decimal} (nonneg : Decimal.zero ≤ losses)
    (h : lossesAfter? losses profit = some after) : Decimal.zero ≤ after := by
  unfold lossesAfter? at h
  split at h
  · rename_i loss
    rw [Decimal.le_iff, Decimal.value_zero] at nonneg ⊢
    rw [Decimal.lt_iff, Decimal.value_zero] at loss
    apply Decimal.add?_nonneg _ h
    rw [Decimal.value_neg]
    linarith
  · cases h
    exact nonneg

theorem IsConsistent.recordTrade? {profit limit : Decimal} (kept : s.IsConsistent)
    (h : s.recordTrade? profit limit now = some s') : s'.IsConsistent := by
  have rolled := kept.rollOver now
  obtain ⟨balance, daily, weekly, losses, lost, measured⟩ := recordTrade?_eq_some h
  apply IsCounted.isConsistent _ measured
  exact
    { losses := lossesAfter?_nonneg rolled.losses lost
      daily := rolled.daily
      weekly := rolled.weekly
      dated := rolled.dated
      breaker := rolled.breaker }

theorem IsConsistent.setBalance? {balance limit : Decimal} (kept : s.IsConsistent)
    (h : s.setBalance? balance limit now = some s') : s'.IsConsistent := by
  have rolled := kept.rollOver now
  obtain ⟨dayStart, weekStart, measured⟩ := setBalance?_eq_some h
  apply IsCounted.isConsistent _ measured
  exact
    { losses := rolled.losses
      daily := rolled.daily
      weekly := rolled.weekly
      dated := rolled.dated
      breaker := rolled.breaker }

theorem IsConsistent.trip (kept : s.IsConsistent) (reason : String) (now : Instant) :
    (s.trip reason now).IsConsistent :=
  { kept with breaker := Breaker.isExplained_trip reason now }

theorem IsConsistent.clear (kept : s.IsConsistent) : s.clear.IsConsistent :=
  { kept with breaker := Breaker.isExplained_clear }

/-! ## Runs -/

/-- An operation on a state. -/
inductive Operation where
  | rollOver (now : Instant)
  | entry (now : Instant)
  | trade (profit limit : Decimal) (now : Instant)
  | balance (balance limit : Decimal) (now : Instant)
  | trip (reason : String) (now : Instant)
  | clear

/-- The state after an operation. -/
def operate? (s : State) : Operation → Option State
  | .rollOver now => some (s.rollOver now)
  | .entry now => s.recordEntry? now
  | .trade profit limit now => s.recordTrade? profit limit now
  | .balance balance limit now => s.setBalance? balance limit now
  | .trip reason now => some (s.trip reason now)
  | .clear => some s.clear

/-- The state after operations one after another. -/
def run? (s : State) (operations : List Operation) : Option State :=
  operations.foldlM operate? s

theorem IsConsistent.operate? {o : Operation} (kept : s.IsConsistent)
    (h : s.operate? o = some s') : s'.IsConsistent := by
  cases o with
  | rollOver now =>
    cases h
    exact kept.rollOver now
  | entry now => exact kept.recordEntry? h
  | trade profit limit now => exact kept.recordTrade? h
  | balance balance limit now => exact kept.setBalance? h
  | trip reason now =>
    cases h
    exact kept.trip reason now
  | clear =>
    cases h
    exact kept.clear

theorem IsConsistent.run? {operations : List Operation} (kept : s.IsConsistent)
    (h : s.run? operations = some s') : s'.IsConsistent := by
  induction operations generalizing s with
  | nil =>
    cases h
    exact kept
  | cons o operations ih =>
    obtain ⟨between, operated, h⟩ := Option.bind_eq_some_iff.1 h
    exact ih (kept.operate? operated) h

/-- Whatever operations a new state goes through, and in whatever order their times are, it is
consistent afterwards. -/
theorem operations_keep_consistent (user : String) (balance : Decimal) (start : Instant)
    {operations : List Operation} (run : (new user balance start).run? operations = some s) :
    s.IsConsistent :=
  (isConsistent_new user balance start).run? run

/-- Entries and a loss at the turn of the year 2027, which is in the middle of a week, a balance below
zero a week later, and an entry after the clock went back to the old year. -/
def turnOfYear : List Operation :=
  [.entry (.noon 20818), .entry (.noon 20819),
    .trade (Decimal.const 400 0).neg (Decimal.const 3 2) (.noon 20819),
    .balance (Decimal.const 100 0).neg (Decimal.const 3 2) (.noon 20826), .rollOver (.noon 20827),
    .entry (.noon 20818), .trip "manual" (.noon 20818)]

/-- The run over the turn of the year ends in a consistent state of the old year. -/
theorem operations_keep_consistent_turnOfYear : ∃ s,
    (new "u" (Decimal.const 10000 0) (.noon 20818)).run? turnOfYear = some s ∧
      s.lastResetDate = Date.ofCivil ⟨2026, 12, 31⟩ ∧ s.IsConsistent := by
  have ran : ((new "u" (Decimal.const 10000 0) (.noon 20818)).run? turnOfYear).any
      (·.lastResetDate = Date.ofCivil ⟨2026, 12, 31⟩) := by
    decide +kernel
  obtain ⟨s, run, back⟩ := (Option.any_eq_true _ _).1 ran
  exact ⟨s, run, of_decide_eq_true back, operations_keep_consistent "u" _ _ run⟩

end State

end TradingDesk.Risk
