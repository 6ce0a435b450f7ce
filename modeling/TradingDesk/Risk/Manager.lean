import TradingDesk.Ledger.Basic
import TradingDesk.Risk.State
import TradingDesk.Table

/-!
# Risk Manager

The risk manager holds the states of users and their limits, which are the common ones unless a user
has limits of its own.  It decides whether a user may open a position of a size: the checks run in a
fixed order, and the first one that fails is the denial.  A user without a state is always denied.

States are saved in the ledger as text, one per user, and loading files each state under the user of
its row.
-/

namespace TradingDesk.Risk

/-- Why a user may not open a position. -/
inductive Denial where
  | unknownUser (user : String)
  | breaker (reason : Option String)
  | openPositions (current limit : Nat)
  | dailyTrades (current limit : Nat)
  | sizeBelow (size minimum percent : Decimal)
  | sizeAbove (size maximum percent : Decimal)
  | dailyLoss (loss limit : Decimal)
  | dailyLossShare (percent limit : Decimal)
  | weeklyLossShare (percent limit : Decimal)
  | drawdown (percent limit : Decimal)
deriving DecidableEq

namespace Denial

/-- The text of a percentage that reached its limit. -/
def reached (what : String) (percent limit : Decimal) : String :=
  what ++ " " ++ percent.renderFixed 2 ++ "% reached limit " ++ limit.renderFixed 2 ++ "%"

/-- The text of a size outside of its range. -/
def outside (relation : String) (size bound percent : Decimal) : String :=
  "Position size $" ++ (size.round 2).render ++ " " ++ relation ++ " $" ++
    (bound.round 2).render ++ " (" ++ percent.normalize.render ++ "% of balance)"

/-- The text of a denial. -/
def message : Denial → String
  | unknownUser user => "No risk state for " ++ user ++ ", balance unknown"
  | breaker reason => "Circuit breaker triggered: " ++ reason.getD "daily loss limit"
  | openPositions current limit =>
    "Max open positions reached (" ++ toString current ++ "/" ++ toString limit ++ ")"
  | dailyTrades current limit =>
    "Max daily trades reached (" ++ toString current ++ "/" ++ toString limit ++ ")"
  | sizeBelow size minimum percent => outside "below minimum" size minimum percent
  | sizeAbove size maximum percent => outside "above maximum" size maximum percent
  | dailyLoss loss limit =>
    "Daily loss $" ++ (loss.round 2).render ++ " reached limit $" ++ limit.render
  | dailyLossShare percent limit => reached "Daily loss" percent limit
  | weeklyLossShare percent limit => reached "Weekly loss" percent limit
  | drawdown percent limit => reached "Drawdown" percent limit

end Denial

/-! ## The checks of an entry -/

/-- What a net result lost; a zero result keeps its sign. -/
def lossOf (profit : Decimal) : Decimal :=
  profit.neg.max Decimal.zero

/-- A share and its limit in percent when the share reaches the limit. -/
def shareReached? (share limit : Decimal) : Option (Option (Decimal × Decimal)) :=
  if limit ≤ share then do
    let percent ← State.percent? share
    let bound ← State.percent? limit
    some (some (percent, bound))
  else
    some none

/-- A loss as a share of a starting balance when it reaches a limit. -/
def lossReached? (loss start limit : Decimal) : Option (Option (Decimal × Decimal)) :=
  if Decimal.zero < start then do
    let share ← Decimal.div? loss start
    shareReached? share limit
  else
    some none

/-- The denial of a size outside of its range. -/
def sizeDenial? (balance : Decimal) (limits : Settings) (size : Decimal) :
    Option (Option Denial) := do
  let minimum ← Decimal.mul? balance limits.minPosition
  let maximum ← Decimal.mul? balance limits.maxPosition
  if size < minimum then
    let percent ← State.percent? limits.minPosition
    some (some (.sizeBelow size minimum percent))
  else if maximum < size then
    let percent ← State.percent? limits.maxPosition
    some (some (.sizeAbove size maximum percent))
  else
    some none

/-- The denial for losses of the day or the week, or for the drawdown. -/
def lossDenial? (s : State) (limits : Settings) : Option (Option Denial) := do
  let loss := lossOf s.dailyProfit
  if limits.maxDailyLoss ≤ loss then
    return some (.dailyLoss loss limits.maxDailyLoss)
  if let some (percent, limit) ← lossReached? loss s.dayStartBalance limits.maxDailyLossShare then
    return some (.dailyLossShare percent limit)
  if let some (percent, limit) ←
      lossReached? (lossOf s.weeklyProfit) s.weekStartBalance limits.maxWeeklyLossShare then
    return some (.weeklyLossShare percent limit)
  if let some (percent, limit) ← shareReached? s.drawdown limits.maxDrawdown then
    return some (.drawdown percent limit)
  return none

/-- The first denial of an entry of a size beside a number of open positions. -/
def denial? (s : State) (limits : Settings) (size : Decimal) (openPositions : Nat) :
    Option (Option Denial) := do
  if s.breaker.tripped then
    return some (.breaker s.breaker.reason)
  if limits.maxOpenPositions ≤ openPositions then
    return some (.openPositions openPositions limits.maxOpenPositions)
  if limits.maxDailyTrades ≤ s.dailyTrades then
    return some (.dailyTrades s.dailyTrades limits.maxDailyTrades)
  if let some denial ← sizeDenial? s.balance limits size then
    return some denial
  lossDenial? s limits

/-! ## The manager -/

/-- The risk states and limits of users. -/
structure Manager where
  defaults : Settings
  overrides : Table Settings
  states : Table State

namespace Manager

/-- A manager without users. -/
def new (defaults : Settings) : Manager :=
  ⟨defaults, [], []⟩

/-- The limits of a user. -/
def settingsOf (m : Manager) (user : String) : Settings :=
  (m.overrides.find? user).getD m.defaults

/-- Gives a user limits of its own. -/
def setSettings (m : Manager) (user : String) (settings : Settings) : Manager :=
  { m with overrides := m.overrides.insert user settings }

/-- The state of a user as it was last left. -/
def stored? (m : Manager) (user : String) : Option State :=
  m.states.find? user

/-- Files a state under a user. -/
def file (m : Manager) (user : String) (s : State) : Manager :=
  { m with states := m.states.insert user s }

/-- Rolls the state of a user over, when there is one. -/
def touch (m : Manager) (user : String) (now : Instant) : Manager :=
  match m.stored? user with
  | none => m
  | some s => m.file user (s.rollOver now)

/-- The state of a user at a time. -/
def state? (m : Manager) (user : String) (now : Instant) : Option State :=
  (m.stored? user).map (·.rollOver now)

/-- Whether a user may open a position of a size, or the reason against it. -/
def check? (m : Manager) (user : String) (size : Decimal) (openPositions : Nat) (now : Instant) :
    Option (Option Denial) :=
  match m.state? user now with
  | none => some (some (.unknownUser user))
  | some s => denial? s (m.settingsOf user) size openPositions

/-- Counts a confirmed entry of a user. -/
def recordEntry? (m : Manager) (user : String) (now : Instant) : Option Manager :=
  match m.stored? user with
  | none => some m
  | some s => (s.recordEntry? now).map (m.file user)

/-- Books the result of an exit, and tells whether it tripped the breaker. -/
def recordTrade? (m : Manager) (user : String) (profit : Decimal) (now : Instant) :
    Option (Manager × Bool) := do
  let before := (m.stored? user).getD (State.new user Decimal.zero now)
  let after ← before.recordTrade? profit (m.settingsOf user).breakerLossShare now
  some (m.file user after, !before.breaker.tripped && after.breaker.tripped)

/-- Sets the balance of a user, who need not have a state. -/
def setBalance? (m : Manager) (user : String) (balance : Decimal) (now : Instant) :
    Option Manager :=
  match m.stored? user with
  | none => some (m.file user (State.new user balance now))
  | some s =>
    (s.setBalance? balance (m.settingsOf user).breakerLossShare now).map (m.file user)

/-- Clears a breaker that tripped, and tells whether it had. -/
def reset (m : Manager) (user : String) : Manager × Bool :=
  match m.stored? user with
  | none => (m, false)
  | some s => if s.breaker.tripped then (m.file user s.clear, true) else (m, false)

/-- Trips the breaker of a user by hand. -/
def trip (m : Manager) (user reason : String) (now : Instant) : Manager :=
  match m.stored? user with
  | none => m
  | some s => m.file user (s.trip ("manual: " ++ reason) now)

/-- The users in order. -/
def users (m : Manager) : List String :=
  m.states.names.mergeSort fun a b ↦ decide (a ≤ b)

/-! ## Saving and loading -/

/-- Saves every state in the ledger. -/
def save (m : Manager) (l : Ledger) : Ledger :=
  m.states.foldl (fun l entry ↦ l.saveRiskState entry.2.user entry.2.storedText) l

/-- Files stored states one after another, up to the first that cannot be read. -/
def loadRows (m : Manager) : List (String × String) → Manager × Option String
  | [] => (m, none)
  | (user, text) :: rest =>
    match State.parse? text with
    | none => (m, some user)
    | some s => (m.file user s).loadRows rest

/-- Loads the states of the ledger, and counts them or names a user whose state is unreadable. -/
def load (m : Manager) (l : Ledger) : Manager × Except String Nat :=
  let rows := l.sortedRiskStates
  match m.loadRows rows with
  | (m, none) => (m, .ok rows.length)
  | (m, some user) => (m, .error user)

/-- The text of a state that cannot be read. -/
def unreadable (user : String) : String :=
  "Invalid risk state for " ++ user

/-! ## Lookup after a change -/

@[simp]
theorem stored?_file_self (m : Manager) (user : String) (s : State) :
    (m.file user s).stored? user = some s := by
  simp [file, stored?]

theorem stored?_file_of_ne (m : Manager) {user other : String} (h : other ≠ user) (s : State) :
    (m.file user s).stored? other = m.stored? other := by
  simp [file, stored?, Table.find?_insert_of_ne h]

@[simp]
theorem settingsOf_file (m : Manager) (user other : String) (s : State) :
    (m.file user s).settingsOf other = m.settingsOf other := rfl

@[simp]
theorem check?_touch (m : Manager) (user : String) (size : Decimal) (openPositions : Nat)
    (now : Instant) :
    (m.touch user now).check? user size openPositions now =
      m.check? user size openPositions now := by
  unfold touch
  split
  · rfl
  · rename_i s hs
    simp [check?, state?, hs]

end Manager

end TradingDesk.Risk
