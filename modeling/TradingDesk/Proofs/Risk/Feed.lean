import Mathlib.Tactic.Common
import TradingDesk.Risk.Manager

/-!
# Feeding a Risk Manager

While it trades, a bot rolls the state of its user over, counts entries and books the net results of
exits with its risk manager.  Of these only the results move the balance, so the balance is the one
at the start plus the results, added up in the order in which they were booked.
-/

namespace TradingDesk.Risk

/-! ## The balance of a state -/

namespace State

variable {s s' : State} {now : Instant}

@[simp]
theorem balance_rollOver (s : State) (now : Instant) : (s.rollOver now).balance = s.balance := by
  unfold rollOver toWeek toDay
  split <;> split <;> rfl

theorem balance_checkBreaker? {limit : Decimal} (h : s.checkBreaker? limit now = some s') :
    s'.balance = s.balance := by
  unfold checkBreaker? at h
  split at h
  · cases h
    rfl
  · obtain ⟨ratio, -, h⟩ := Option.bind_eq_some_iff.1 h
    split at h
    · obtain ⟨reason, -, h⟩ := Option.bind_eq_some_iff.1 h
      cases h
      rfl
    · cases h
      rfl

theorem balance_recordEntry? (h : s.recordEntry? now = some s') : s'.balance = s.balance := by
  obtain ⟨daily, -, h⟩ := Option.bind_eq_some_iff.1 h
  obtain ⟨weekly, -, h⟩ := Option.bind_eq_some_iff.1 h
  obtain ⟨total, -, h⟩ := Option.bind_eq_some_iff.1 h
  cases h
  exact balance_rollOver s now

/-- A result is added to the balance. -/
theorem balance_recordTrade? {profit limit : Decimal}
    (h : s.recordTrade? profit limit now = some s') :
    Decimal.add? s.balance profit = some s'.balance := by
  obtain ⟨balance, added, h⟩ := Option.bind_eq_some_iff.1 h
  obtain ⟨daily, -, h⟩ := Option.bind_eq_some_iff.1 h
  obtain ⟨weekly, -, h⟩ := Option.bind_eq_some_iff.1 h
  obtain ⟨losses, -, h⟩ := Option.bind_eq_some_iff.1 h
  obtain ⟨drawn, fallen, h⟩ := Option.bind_eq_some_iff.1 h
  obtain ⟨drawdown, -, fallen⟩ := Option.bind_eq_some_iff.1 fallen
  have kept := balance_checkBreaker? h
  cases fallen
  rw [balance_rollOver] at added
  rw [added, kept]

end State

/-! ## The balance of a user -/

namespace Manager

variable {user : String} {m m' : Manager} {now : Instant}

/-- The balance of a user with a state. -/
def balance? (m : Manager) (user : String) : Option Decimal :=
  (m.stored? user).map (·.balance)

@[simp]
theorem balance?_file_self (m : Manager) (user : String) (s : State) :
    (m.file user s).balance? user = some s.balance := by
  rw [balance?, stored?_file_self]
  rfl

@[simp]
theorem balance?_touch (m : Manager) (user : String) (now : Instant) :
    (m.touch user now).balance? user = m.balance? user := by
  unfold touch
  split
  · rfl
  · rename_i s stored
    rw [balance?_file_self, State.balance_rollOver, balance?, stored]
    rfl

theorem balance?_recordEntry? (h : m.recordEntry? user now = some m') :
    m'.balance? user = m.balance? user := by
  unfold recordEntry? at h
  split at h
  · cases h
    rfl
  · rename_i s stored
    obtain ⟨s', counted, rfl⟩ := Option.map_eq_some_iff.1 h
    rw [balance?_file_self, State.balance_recordEntry? counted, balance?, stored]
    rfl

/-- A result is added to the balance of a user with a state. -/
theorem balance?_recordTrade? {profit x : Decimal} {tripped : Bool}
    (known : m.balance? user = some x)
    (h : m.recordTrade? user profit now = some (m', tripped)) :
    ∃ y, Decimal.add? x profit = some y ∧ m'.balance? user = some y := by
  obtain ⟨s, stored, rfl⟩ := Option.map_eq_some_iff.1 known
  obtain ⟨s', recorded, h⟩ := Option.bind_eq_some_iff.1 h
  cases h
  rw [stored] at recorded
  exact ⟨s'.balance, State.balance_recordTrade? recorded, balance?_file_self m user s'⟩

end Manager

/-! ## The calls of a bot -/

variable {user : String} {m m' m'' : Manager} {nets later : List Decimal}

/-- What a bot does with its risk manager after it started, with the results of a user that it
books, newest first. -/
inductive Fed (user : String) (m : Manager) : List Decimal → Manager → Prop
  | start : Fed user m [] m
  | rolled {nets : List Decimal} {m' : Manager} (h : Fed user m nets m') (now : Instant) :
      Fed user m nets (m'.touch user now)
  | entered {nets : List Decimal} {m' m'' : Manager} {now : Instant} (h : Fed user m nets m')
      (counted : m'.recordEntry? user now = some m'') : Fed user m nets m''
  | traded {nets : List Decimal} {m' m'' : Manager} {now : Instant} {net : Decimal} {tripped : Bool}
      (h : Fed user m nets m') (booked : m'.recordTrade? user net now = some (m'', tripped)) :
      Fed user m (net :: nets) m''

theorem Fed.append (h : Fed user m nets m') (h' : Fed user m' later m'') :
    Fed user m (later ++ nets) m'' := by
  induction h' with
  | start => exact h
  | rolled _ now ih => exact .rolled ih now
  | entered _ counted ih => exact .entered ih counted
  | traded _ booked ih => exact .traded ih booked

/-- The balance of a user with a state moves by the results that are booked and by nothing else. -/
theorem Fed.balance {x : Decimal} (h : Fed user m nets m') (known : m.balance? user = some x) :
    ∃ y, nets.reverse.foldlM Decimal.add? x = some y ∧ m'.balance? user = some y := by
  induction h with
  | start => exact ⟨x, rfl, known⟩
  | rolled _ now ih =>
    rw [Manager.balance?_touch]
    exact ih
  | entered _ counted ih =>
    rw [Manager.balance?_recordEntry? counted]
    exact ih
  | @traded nets m' m'' now net tripped _ booked ih =>
    obtain ⟨y, sum, reached⟩ := ih
    obtain ⟨z, added, reached'⟩ := Manager.balance?_recordTrade? reached booked
    refine ⟨z, ?_, reached'⟩
    rw [List.reverse_cons, List.foldlM_append, sum]
    change (Decimal.add? y net).bind some = some z
    rw [added]
    rfl

/-- Saving writes risk states and no trades. -/
theorem Manager.trades_save (m : Manager) (l : Ledger) :
    (m.save l).trades = l.trades ∧ (m.save l).outages = l.outages := by
  unfold Manager.save
  generalize m.states = states
  induction states generalizing l with
  | nil => exact ⟨rfl, rfl⟩
  | cons entry states ih => exact ih (l.saveRiskState entry.2.user entry.2.storedText)

end TradingDesk.Risk
