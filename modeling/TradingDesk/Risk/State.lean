import TradingDesk.Decimal.Arithmetic
import TradingDesk.Json.Reader
import TradingDesk.Json.Writer
import TradingDesk.Risk.Settings

/-!
# Risk States

The risk state of a user follows the balance, its peak, and the results and entries of the current
day and week.  Every operation first rolls the state over to the day and the week of its time, which
clears their counters and, on a new day, the circuit breaker.

The breaker trips when the gross losses of the day reach a share of the balance at the start of the
day.  On the same day it never clears by itself.  Amounts and counters can leave their range, and an
operation is then a fault.
-/

namespace TradingDesk.Risk

/-- Whether trading was halted, why and when. -/
structure Breaker where
  tripped : Bool
  reason : Option String
  since : Option Instant
deriving DecidableEq

namespace Breaker

/-- A breaker that lets trading go on. -/
def clear : Breaker := ⟨false, none, none⟩

/-- A breaker that tripped. -/
def trip (reason : String) (now : Instant) : Breaker := ⟨true, some reason, some now⟩

end Breaker

/-- The balance, results and counters of a user. -/
structure State where
  user : String
  balance : Decimal
  peakBalance : Decimal
  dayStartBalance : Decimal
  weekStartBalance : Decimal
  dailyProfit : Decimal
  weeklyProfit : Decimal
  dailyLosses : Decimal
  dailyTrades : Nat
  weeklyTrades : Nat
  totalTrades : Nat
  drawdown : Decimal
  breaker : Breaker
  lastResetDate : Date
  lastResetWeek : Date.Week
  updatedAt : Instant
deriving DecidableEq

namespace State

/-- The state of a user with a balance and no history. -/
def new (user : String) (balance : Decimal) (now : Instant) : State :=
  { user := user
    balance := balance
    peakBalance := balance
    dayStartBalance := balance
    weekStartBalance := balance
    dailyProfit := Decimal.zero
    weeklyProfit := Decimal.zero
    dailyLosses := Decimal.zero
    dailyTrades := 0
    weeklyTrades := 0
    totalTrades := 0
    drawdown := Decimal.zero
    breaker := Breaker.clear
    lastResetDate := now.date
    lastResetWeek := now.date.isoWeek
    updatedAt := now }

/-! ## Days and weeks -/

/-- Starts a day. -/
def startDay (s : State) (today : Date) : State :=
  { s with
    dailyProfit := Decimal.zero
    dailyLosses := Decimal.zero
    dailyTrades := 0
    dayStartBalance := s.balance
    breaker := Breaker.clear
    lastResetDate := today }

/-- Starts a week. -/
def startWeek (s : State) (week : Date.Week) : State :=
  { s with
    weeklyProfit := Decimal.zero
    weeklyTrades := 0
    weekStartBalance := s.balance
    lastResetWeek := week }

/-- Whether a time falls on another day or into another week. -/
def isStale (s : State) (now : Instant) : Bool :=
  now.date != s.lastResetDate || now.date.isoWeek != s.lastResetWeek

/-- The state on a day. -/
def toDay (s : State) (today : Date) : State :=
  if today = s.lastResetDate then s else s.startDay today

/-- The state in a week. -/
def toWeek (s : State) (week : Date.Week) : State :=
  if week = s.lastResetWeek then s else s.startWeek week

/-- The state on the day and in the week of a time. -/
def rollOver (s : State) (now : Instant) : State :=
  (s.toDay now.date).toWeek now.date.isoWeek

/-! ## The breaker -/

/-- Halts trading. -/
def trip (s : State) (reason : String) (now : Instant) : State :=
  { s with breaker := Breaker.trip reason now }

/-- Lets trading go on. -/
def clear (s : State) : State :=
  { s with breaker := Breaker.clear }

/-- The gross losses of the day as a share of the balance at its start. -/
def dailyLossRatio? (s : State) : Option Decimal :=
  if s.dayStartBalance ≤ Decimal.zero then some Decimal.zero
  else Decimal.div? s.dailyLosses s.dayStartBalance

/-- A share in percent. -/
def percent? (share : Decimal) : Option Decimal :=
  Decimal.mul? share (Decimal.const 100 0)

/-- The reason for a trip at a ratio of losses. -/
def lossReason? (s : State) (ratio limit : Decimal) : Option String := do
  let lost ← percent? ratio
  let allowed ← percent? limit
  some ("daily losses $" ++ (s.dailyLosses.round 2).render ++ " are " ++ lost.renderFixed 2 ++
    "% of $" ++ (s.dayStartBalance.round 2).render ++ " (limit " ++ allowed.renderFixed 2 ++ "%)")

/-- Trips the breaker when the losses of the day reach their limit. -/
def checkBreaker? (s : State) (limit : Decimal) (now : Instant) : Option State :=
  if s.breaker.tripped then some s
  else do
    let ratio ← s.dailyLossRatio?
    if limit ≤ ratio then
      let reason ← s.lossReason? ratio limit
      some (s.trip reason now)
    else
      some s

/-! ## Operations -/

/-- The drop from a peak to a balance as a share of the peak. -/
def drawdownOf? (peak balance : Decimal) : Option Decimal :=
  if Decimal.zero < peak then do
    let drop ← Decimal.sub? peak balance
    let share ← Decimal.div? drop peak
    some (share.max Decimal.zero)
  else
    some Decimal.zero

/-- Brings peak and drawdown up to date. -/
def withDrawdown? (s : State) : Option State := do
  let peak := if s.peakBalance < s.balance then s.balance else s.peakBalance
  let drawdown ← drawdownOf? peak s.balance
  some { s with peakBalance := peak, drawdown := drawdown }

/-- A counter after one more event, within a bound. -/
def count? (bound n : Nat) : Option Nat :=
  if n + 1 < bound then some (n + 1) else none

/-- Counts a confirmed entry. -/
def recordEntry? (s : State) (now : Instant) : Option State := do
  let s := s.rollOver now
  let daily ← count? limit32 s.dailyTrades
  let weekly ← count? limit32 s.weeklyTrades
  let total ← count? limit64 s.totalTrades
  some { s with
    dailyTrades := daily
    weeklyTrades := weekly
    totalTrades := total
    updatedAt := now }

/-- The gross losses after a result. -/
def lossesAfter? (losses profit : Decimal) : Option Decimal :=
  if profit < Decimal.zero then Decimal.add? losses profit.neg else some losses

/-- Books the result of an exit. -/
def recordTrade? (s : State) (profit limit : Decimal) (now : Instant) : Option State := do
  let s := s.rollOver now
  let balance ← Decimal.add? s.balance profit
  let daily ← Decimal.add? s.dailyProfit profit
  let weekly ← Decimal.add? s.weeklyProfit profit
  let losses ← lossesAfter? s.dailyLosses profit
  let s := { s with
    balance := balance
    dailyProfit := daily
    weeklyProfit := weekly
    dailyLosses := losses
    updatedAt := now }
  let s ← s.withDrawdown?
  s.checkBreaker? limit now

/-- Sets the balance; it becomes the start of a day or week that started at zero. -/
def setBalance? (s : State) (balance limit : Decimal) (now : Instant) : Option State := do
  let s := s.rollOver now
  let s := { s with
    balance := balance
    dayStartBalance := if s.dayStartBalance.isZero then balance else s.dayStartBalance
    weekStartBalance := if s.weekStartBalance.isZero then balance else s.weekStartBalance
    updatedAt := now }
  let s ← s.withDrawdown?
  s.checkBreaker? limit now

/-! ## Text -/

/-- Reads a week written as year and number. -/
def weekOfJson? : Json → Option Date.Week
  | .arr [.int year, .int number] =>
    if -2147483648 ≤ year ∧ year < 2147483648 ∧ 0 ≤ number ∧ number < limit32 then
      some ⟨year, number.toNat⟩
    else
      none
  | _ => none

/-- A week as year and number. -/
def weekToJson (w : Date.Week) : Json :=
  .arr [.int w.year, .nat w.number]

/-- Reads a state. -/
def ofJson? : Json → Option State :=
  let amount (name : String) : Record.Reader Decimal := Record.required [name] Record.decimal?
  let count (name : String) (bound : Nat) : Record.Reader Nat :=
    Record.required [name] (Record.Typing.nat? .strict bound)
  let text? := Record.Typing.text? .strict
  Record.read? do
    let user ← Record.required ["user_id"] text?
    let balance ← amount "balance"
    let peakBalance ← amount "peak_balance"
    let dayStartBalance ← amount "day_start_balance"
    let weekStartBalance ← amount "week_start_balance"
    let dailyProfit ← amount "daily_pnl"
    let weeklyProfit ← amount "weekly_pnl"
    let dailyLosses ← amount "daily_losses"
    let dailyTrades ← count "daily_trades" limit32
    let weeklyTrades ← count "weekly_trades" limit32
    let totalTrades ← count "total_trades" limit64
    let drawdown ← amount "drawdown_pct"
    let tripped ← Record.required ["circuit_breaker"] (Record.Typing.flag? .strict)
    let reason ← Record.nullable ["circuit_breaker_reason"] text?
    let since ← Record.nullable ["circuit_breaker_at"] Record.instant?
    let lastResetDate ← Record.required ["last_reset_date"] Record.date?
    let lastResetWeek ← Record.required ["last_reset_week"] weekOfJson?
    let updatedAt ← Record.required ["updated_at"] Record.instant?
    pure
      { user := user
        balance := balance
        peakBalance := peakBalance
        dayStartBalance := dayStartBalance
        weekStartBalance := weekStartBalance
        dailyProfit := dailyProfit
        weeklyProfit := weeklyProfit
        dailyLosses := dailyLosses
        dailyTrades := dailyTrades
        weeklyTrades := weeklyTrades
        totalTrades := totalTrades
        drawdown := drawdown
        breaker := ⟨tripped, reason, since⟩
        lastResetDate := lastResetDate
        lastResetWeek := lastResetWeek
        updatedAt := updatedAt }

/-- The fields of a state. -/
def toJson (s : State) : Json :=
  let amount (d : Decimal) : Json := .str d.render
  .obj [("user_id", .str s.user), ("balance", amount s.balance),
    ("peak_balance", amount s.peakBalance), ("day_start_balance", amount s.dayStartBalance),
    ("week_start_balance", amount s.weekStartBalance), ("daily_pnl", amount s.dailyProfit),
    ("weekly_pnl", amount s.weeklyProfit), ("daily_losses", amount s.dailyLosses),
    ("daily_trades", .nat s.dailyTrades), ("weekly_trades", .nat s.weeklyTrades),
    ("total_trades", .nat s.totalTrades), ("drawdown_pct", amount s.drawdown),
    ("circuit_breaker", .bool s.breaker.tripped),
    ("circuit_breaker_reason", Json.ofOption Json.str s.breaker.reason),
    ("circuit_breaker_at", Json.ofOption (fun t : Instant ↦ .str t.render) s.breaker.since),
    ("last_reset_date", .str s.lastResetDate.render),
    ("last_reset_week", weekToJson s.lastResetWeek), ("updated_at", .str s.updatedAt.render)]

/-- The text under which a state is stored. -/
def storedText (s : State) : String :=
  s.toJson.compact

/-- Reads a stored state. -/
def parse? (text : String) : Option State :=
  (Json.parse? text).bind ofJson?

/-! ## Rolling over -/

@[simp]
theorem lastResetDate_toWeek (s : State) (week : Date.Week) :
    (s.toWeek week).lastResetDate = s.lastResetDate := by
  unfold toWeek
  split <;> rfl

@[simp]
theorem lastResetDate_toDay (s : State) (today : Date) :
    (s.toDay today).lastResetDate = today := by
  unfold toDay
  split
  · rename_i h
    exact h.symm
  · rfl

@[simp]
theorem lastResetWeek_toWeek (s : State) (week : Date.Week) :
    (s.toWeek week).lastResetWeek = week := by
  unfold toWeek
  split
  · rename_i h
    exact h.symm
  · rfl

@[simp]
theorem lastResetDate_rollOver (s : State) (now : Instant) :
    (s.rollOver now).lastResetDate = now.date := by
  simp [rollOver]

@[simp]
theorem lastResetWeek_rollOver (s : State) (now : Instant) :
    (s.rollOver now).lastResetWeek = now.date.isoWeek := by
  simp [rollOver]

@[simp]
theorem rollOver_rollOver (s : State) (now : Instant) :
    (s.rollOver now).rollOver now = s.rollOver now := by
  have day : (s.rollOver now).toDay now.date = s.rollOver now := by simp [toDay]
  rw [rollOver, day]
  simp [toWeek]

end State

end TradingDesk.Risk
