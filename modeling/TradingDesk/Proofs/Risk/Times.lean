import TradingDesk.Proofs.Risk.Rollover

/-!
# Clocks that Turn Together

A risk state is rolled over by the day and the week of a time, and keeps times to tell when
something happened.  Nothing else in it depends on times.  Two managers that are served by different
clocks therefore decide alike, as long as the clocks turn together: two readings of one fall on the
same day, or into the same week, exactly when the same readings of the other do.
-/

namespace TradingDesk.Risk

/-- Whether a new day, and a new week, begins on two clocks at the same readings. -/
structure TurnTogether (clock clock' : Nat → Instant) : Prop where
  day : ∀ i j, (clock i).date = (clock j).date ↔ (clock' i).date = (clock' j).date
  week : ∀ i j, (clock i).date.isoWeek = (clock j).date.isoWeek ↔
    (clock' i).date.isoWeek = (clock' j).date.isoWeek

/-- Two clocks that stand still turn together. -/
theorem turnTogether_const (now now' : Instant) :
    TurnTogether (fun _ ↦ now) (fun _ ↦ now') :=
  ⟨fun _ _ ↦ ⟨fun _ ↦ rfl, fun _ ↦ rfl⟩, fun _ _ ↦ ⟨fun _ ↦ rfl, fun _ ↦ rfl⟩⟩

variable {clock clock' : Nat → Instant}

namespace State

/-- A state with other times. -/
def withTimes (s : State) (since : Option Instant) (date : Date) (week : Date.Week)
    (updatedAt : Instant) : State :=
  { s with
    breaker := { s.breaker with since := since }
    lastResetDate := date
    lastResetWeek := week
    updatedAt := updatedAt }

/-- Whether two states differ in times alone, and are of the days of one reading of two clocks. -/
structure InStep (clock clock' : Nat → Instant) (s s' : State) : Prop where
  times : ∃ since date week updatedAt, s' = s.withTimes since date week updatedAt
  reading : ∃ i, s.IsFrom (clock i) ∧ s'.IsFrom (clock' i)

variable {s s' : State}

theorem inStep_new (user : String) (balance : Decimal) (i : Nat) :
    InStep clock clock' (new user balance (clock i)) (new user balance (clock' i)) :=
  ⟨⟨_, _, _, _, rfl⟩, i, isFrom_new user balance _, isFrom_new user balance _⟩

namespace InStep

/-- On clocks that turn together, rolling over keeps states in step. -/
theorem rollOver (h : InStep clock clock' s s') (turn : TurnTogether clock clock') (n : Nat) :
    InStep clock clock' (s.rollOver (clock n)) (s'.rollOver (clock' n)) := by
  obtain ⟨i, first, second⟩ := h.reading
  by_cases today : (clock n).date = (clock i).date
  · rw [rollOver_of_today first.dated (today.trans first.date.symm),
      rollOver_of_today second.dated (((turn.day n i).1 today).trans second.date.symm)]
    exact h
  · have other : (clock n).date ≠ s.lastResetDate := first.date ▸ today
    have other' : (clock' n).date ≠ s'.lastResetDate :=
      second.date ▸ mt (turn.day n i).2 today
    refine ⟨?_, n, isFrom_rollOver _ _, isFrom_rollOver _ _⟩
    rw [rollOver_of_other_day other, rollOver_of_other_day other', toWeek, toWeek]
    have week : (s.startDay (clock n).date).lastResetWeek = (clock i).date.isoWeek :=
      first.dated.trans (congrArg Date.isoWeek first.date)
    have week' : (s'.startDay (clock' n).date).lastResetWeek = (clock' i).date.isoWeek :=
      second.dated.trans (congrArg Date.isoWeek second.date)
    rw [week, week']
    obtain ⟨since, date, number, updatedAt, rfl⟩ := h.times
    by_cases same : (clock n).date.isoWeek = (clock i).date.isoWeek
    · rw [if_pos same, if_pos ((turn.week n i).1 same)]
      exact ⟨_, _, _, _, rfl⟩
    · rw [if_neg same, if_neg (mt (turn.week n i).2 same)]
      exact ⟨_, _, _, _, rfl⟩

theorem recordEntry? (h : InStep clock clock' s s') (turn : TurnTogether clock clock') (n : Nat) :
    Option.Rel (InStep clock clock') (s.recordEntry? (clock n)) (s'.recordEntry? (clock' n)) := by
  have rolled := h.rollOver turn n
  unfold State.recordEntry?
  generalize s.rollOver (clock n) = s, s'.rollOver (clock' n) = s' at rolled ⊢
  obtain ⟨⟨since, date, week, updatedAt, rfl⟩, i, first, second⟩ := rolled
  refine rel_bind_same (count? limit32 s.dailyTrades) fun daily ↦ ?_
  refine rel_bind_same (count? limit32 s.weeklyTrades) fun weekly ↦ ?_
  refine rel_bind_same (count? limit64 s.totalTrades) fun total ↦ .some ?_
  exact ⟨⟨_, _, _, _, rfl⟩, i, ⟨first.dated, first.date⟩, ⟨second.dated, second.date⟩⟩

theorem withDrawdown? (h : InStep clock clock' s s') :
    Option.Rel (InStep clock clock') s.withDrawdown? s'.withDrawdown? := by
  obtain ⟨⟨since, date, week, updatedAt, rfl⟩, i, first, second⟩ := h
  refine rel_bind_same (drawdownOf? _ s.balance) fun drawdown ↦ .some ?_
  exact ⟨⟨_, _, _, _, rfl⟩, i, ⟨first.dated, first.date⟩, ⟨second.dated, second.date⟩⟩

theorem checkBreaker? (h : InStep clock clock' s s') (limit : Decimal) (now now' : Instant) :
    Option.Rel (InStep clock clock') (s.checkBreaker? limit now) (s'.checkBreaker? limit now') := by
  obtain ⟨⟨since, date, week, updatedAt, rfl⟩, i, first, second⟩ := h
  unfold State.checkBreaker?
  change Option.Rel _ (if s.breaker.tripped then _ else _) (if s.breaker.tripped then _ else _)
  split
  · exact .some ⟨⟨_, _, _, _, rfl⟩, i, first, second⟩
  · refine rel_bind_same s.dailyLossRatio? fun ratio ↦ ?_
    split
    · refine rel_bind_same (s.lossReason? ratio limit) fun reason ↦ .some ?_
      exact ⟨⟨_, _, _, _, rfl⟩, i, ⟨first.dated, first.date⟩, ⟨second.dated, second.date⟩⟩
    · exact .some ⟨⟨_, _, _, _, rfl⟩, i, first, second⟩

theorem recordTrade? (h : InStep clock clock' s s') (turn : TurnTogether clock clock') (n : Nat)
    (profit limit : Decimal) :
    Option.Rel (InStep clock clock') (s.recordTrade? profit limit (clock n))
      (s'.recordTrade? profit limit (clock' n)) := by
  have rolled := h.rollOver turn n
  unfold State.recordTrade?
  generalize s.rollOver (clock n) = s, s'.rollOver (clock' n) = s' at rolled ⊢
  obtain ⟨⟨since, date, week, updatedAt, rfl⟩, i, first, second⟩ := rolled
  refine rel_bind_same (Decimal.add? s.balance profit) fun balance ↦ ?_
  refine rel_bind_same (Decimal.add? s.dailyProfit profit) fun daily ↦ ?_
  refine rel_bind_same (Decimal.add? s.weeklyProfit profit) fun weekly ↦ ?_
  refine rel_bind_same (lossesAfter? s.dailyLosses profit) fun losses ↦ ?_
  refine rel_bind (withDrawdown? (s := _) ?_) fun _ _ _ both ↦ both.checkBreaker? limit _ _
  exact ⟨⟨_, _, _, _, rfl⟩, i, ⟨first.dated, first.date⟩, ⟨second.dated, second.date⟩⟩

theorem denial?_eq (h : InStep clock clock' s s') (limits : Settings) (size : Decimal)
    (openPositions : Nat) :
    denial? s limits size openPositions = denial? s' limits size openPositions := by
  obtain ⟨since, date, week, updatedAt, rfl⟩ := h.times
  rfl

end InStep

end State

/-! ## Managers under two clocks -/

namespace Manager

/-- Whether two managers hold the same limits, and states in step. -/
structure InStep (clock clock' : Nat → Instant) (m m' : Manager) : Prop where
  settings : ∀ user, m.settingsOf user = m'.settingsOf user
  states : ∀ user, Option.Rel (State.InStep clock clock') (m.stored? user) (m'.stored? user)

variable {m m' : Manager}

namespace InStep

theorem file {s s' : State} (h : InStep clock clock' m m') (user : String)
    (both : State.InStep clock clock' s s') :
    InStep clock clock' (m.file user s) (m'.file user s') := by
  refine ⟨h.settings, fun other ↦ ?_⟩
  by_cases own : other = user
  · rw [own, stored?_file_self, stored?_file_self]
    exact .some both
  · rw [stored?_file_of_ne m own, stored?_file_of_ne m' own]
    exact h.states other

theorem touch (h : InStep clock clock' m m') (turn : TurnTogether clock clock') (user : String)
    (n : Nat) : InStep clock clock' (m.touch user (clock n)) (m'.touch user (clock' n)) := by
  unfold Manager.touch
  have known := h.states user
  generalize m.stored? user = s, m'.stored? user = s' at known ⊢
  cases known with
  | none => exact h
  | some both => exact h.file user (both.rollOver turn n)

/-- The same entries are allowed. -/
theorem check?_eq (h : InStep clock clock' m m') (turn : TurnTogether clock clock') (user : String)
    (size : Decimal) (openPositions n : Nat) :
    m.check? user size openPositions (clock n) = m'.check? user size openPositions (clock' n) := by
  unfold Manager.check? Manager.state?
  rw [h.settings]
  have known := h.states user
  generalize m.stored? user = s, m'.stored? user = s' at known ⊢
  cases known with
  | none => rfl
  | some both => exact (both.rollOver turn n).denial?_eq _ _ _

theorem recordEntry? (h : InStep clock clock' m m') (turn : TurnTogether clock clock')
    (user : String) (n : Nat) :
    Option.Rel (InStep clock clock') (m.recordEntry? user (clock n))
      (m'.recordEntry? user (clock' n)) := by
  unfold Manager.recordEntry?
  have known := h.states user
  generalize m.stored? user = s, m'.stored? user = s' at known ⊢
  cases known with
  | none => exact .some h
  | some both => exact rel_map (both.recordEntry? turn n) fun _ _ both ↦ h.file user both

theorem recordTrade? (h : InStep clock clock' m m') (turn : TurnTogether clock clock')
    (user : String) (profit : Decimal) (n : Nat) :
    Option.Rel (fun p p' ↦ InStep clock clock' p.1 p'.1) (m.recordTrade? user profit (clock n))
      (m'.recordTrade? user profit (clock' n)) := by
  have before : State.InStep clock clock'
      ((m.stored? user).getD (State.new user Decimal.zero (clock n)))
      ((m'.stored? user).getD (State.new user Decimal.zero (clock' n))) := by
    have known := h.states user
    generalize m.stored? user = s, m'.stored? user = s' at known ⊢
    cases known with
    | none => exact State.inStep_new user Decimal.zero n
    | some both => exact both
  unfold Manager.recordTrade?
  rw [h.settings]
  exact rel_bind (before.recordTrade? turn n profit _) fun _ _ _ both ↦ .some (h.file user both)

/-- The same balances are known. -/
theorem balance_eq (h : InStep clock clock' m m') (user : String) :
    (m.stored? user).map (·.balance) = (m'.stored? user).map (·.balance) := by
  refine map_eq_of_rel (h.states user) fun s s' both ↦ ?_
  obtain ⟨since, date, week, updatedAt, rfl⟩ := both.times
  rfl

end InStep

end Manager

end TradingDesk.Risk
