import TradingDesk.Proofs.Json.Text
import TradingDesk.Proofs.Record.Fields
import TradingDesk.Proofs.Risk.Operations

/-!
# Stored Risk States

The stored text of a risk state is read back as the state, except that a zero amount loses its sign,
which no comparison of amounts sees.  The state has to be one that operations make at times of a clock:
its counters, dates, weeks and times then fit the text.

An operation that is given amounts whose zeros carry no sign makes no such zero, and the state is then
read back exactly.
-/

namespace TradingDesk.Risk.State

variable {s s' : State} {now : Instant}

/-! ## Text -/

/-- The state without the signs of its zeros. -/
def unsignedZeros (s : State) : State :=
  { s with
    balance := s.balance.unsignedZero
    peakBalance := s.peakBalance.unsignedZero
    dayStartBalance := s.dayStartBalance.unsignedZero
    weekStartBalance := s.weekStartBalance.unsignedZero
    dailyProfit := s.dailyProfit.unsignedZero
    weeklyProfit := s.weeklyProfit.unsignedZero
    dailyLosses := s.dailyLosses.unsignedZero
    drawdown := s.drawdown.unsignedZero }

/-- Whether a text can hold the counters, dates and times of a state. -/
structure IsStorable (s : State) : Prop where
  dailyTrades : s.dailyTrades < limit32
  weeklyTrades : s.weeklyTrades < limit32
  totalTrades : s.totalTrades < limit64
  since : ∀ t, s.breaker.since = some t → t.IsClock
  date : s.lastResetDate.IsInRange
  weekYear : -2147483648 ≤ s.lastResetWeek.year ∧ s.lastResetWeek.year < 2147483648
  weekNumber : s.lastResetWeek.number < limit32
  updatedAt : s.updatedAt.IsClock

/-- The fields under which a state is written. -/
def writtenFields (s : State) : List (String × Json) :=
  let amount (d : Decimal) : Json := .str d.render
  [("user_id", .str s.user), ("balance", amount s.balance),
    ("peak_balance", amount s.peakBalance), ("day_start_balance", amount s.dayStartBalance),
    ("week_start_balance", amount s.weekStartBalance), ("daily_pnl", amount s.dailyProfit),
    ("weekly_pnl", amount s.weeklyProfit), ("daily_losses", amount s.dailyLosses),
    ("daily_trades", .nat s.dailyTrades), ("weekly_trades", .nat s.weeklyTrades),
    ("total_trades", .nat s.totalTrades), ("drawdown_pct", amount s.drawdown),
    ("circuit_breaker", .bool s.breaker.tripped),
    ("circuit_breaker_reason", Json.ofOption Json.str s.breaker.reason),
    ("circuit_breaker_at", Json.ofOption (fun t : Instant ↦ .str t.render) s.breaker.since),
    ("last_reset_date", .str s.lastResetDate.render),
    ("last_reset_week", weekToJson s.lastResetWeek), ("updated_at", .str s.updatedAt.render)]

theorem toJson_eq (s : State) : s.toJson = .obj s.writtenFields := rfl

theorem nodup_writtenFields (s : State) : (s.writtenFields.map (·.1)).Nodup := by
  change (["user_id", "balance", "peak_balance", "day_start_balance", "week_start_balance",
    "daily_pnl", "weekly_pnl", "daily_losses", "daily_trades", "weekly_trades", "total_trades",
    "drawdown_pct", "circuit_breaker", "circuit_breaker_reason", "circuit_breaker_at",
    "last_reset_date", "last_reset_week", "updated_at"] : List String).Nodup
  decide

theorem weekOfJson?_weekToJson (storable : s.IsStorable) :
    weekOfJson? (weekToJson s.lastResetWeek) = some s.lastResetWeek := by
  obtain ⟨low, high⟩ := storable.weekYear
  have number : ((s.lastResetWeek.number : Nat) : Int) < limit32 :=
    Int.ofNat_lt.2 storable.weekNumber
  rw [weekToJson, Json.nat, weekOfJson?, if_pos ⟨low, high, Int.natCast_nonneg _, number⟩,
    Int.toNat_natCast]

/-- The fields of a state are read back, one after another. -/
theorem ofJson?_toJson (storable : s.IsStorable) : ofJson? s.toJson = some s.unsignedZeros := by
  have distinct := s.nodup_writtenFields
  have field {α β : Type} (name : String) {value : Json} {read? : Json → Option α} {a : α}
      (read : read? value = some a) (next : α → Record.Reader β)
      (listed : (name, value) ∈ s.writtenFields) :=
    Record.required_bind distinct listed read next
  have amount {β : Type} (name : String) (d : Decimal) (next : Decimal → Record.Reader β)
      (listed : (name, Json.str d.render) ∈ s.writtenFields) :=
    field name (Record.decimal?_render d) next listed
  have count {β : Type} (name : String) {n bound : Nat} (small : n < bound)
      (next : Nat → Record.Reader β) (listed : (name, Json.nat n) ∈ s.writtenFields) :=
    field name (Record.Typing.nat?_nat small) next listed
  have user : Record.Typing.text? .strict (.str s.user) = some s.user := rfl
  have tripped : Record.Typing.flag? .strict (.bool s.breaker.tripped) = some s.breaker.tripped :=
    rfl
  have reason : ("circuit_breaker_reason", Json.ofOption Json.str s.breaker.reason) ∈
      s.writtenFields := by simp [writtenFields]
  have since : ("circuit_breaker_at",
      Json.ofOption (fun t : Instant ↦ .str t.render) s.breaker.since) ∈ s.writtenFields := by
    simp [writtenFields]
  rw [toJson_eq, ofJson?, Record.read?]
  dsimp only
  rw [field "user_id" user _ (by simp [writtenFields]),
    amount "balance" s.balance _ (by simp [writtenFields]),
    amount "peak_balance" s.peakBalance _ (by simp [writtenFields]),
    amount "day_start_balance" s.dayStartBalance _ (by simp [writtenFields]),
    amount "week_start_balance" s.weekStartBalance _ (by simp [writtenFields]),
    amount "daily_pnl" s.dailyProfit _ (by simp [writtenFields]),
    amount "weekly_pnl" s.weeklyProfit _ (by simp [writtenFields]),
    amount "daily_losses" s.dailyLosses _ (by simp [writtenFields]),
    count "daily_trades" storable.dailyTrades _ (by simp [writtenFields]),
    count "weekly_trades" storable.weeklyTrades _ (by simp [writtenFields]),
    count "total_trades" storable.totalTrades _ (by simp [writtenFields]),
    amount "drawdown_pct" s.drawdown _ (by simp [writtenFields]),
    field "circuit_breaker" tripped _ (by simp [writtenFields]),
    Record.nullable_bind distinct reason (Record.Typing.optional?_text s.breaker.reason),
    Record.nullable_bind distinct since (Record.Typing.optional?_instant storable.since),
    field "last_reset_date" (Record.date?_render storable.date) _ (by simp [writtenFields]),
    field "last_reset_week" (weekOfJson?_weekToJson storable) _ (by simp [writtenFields]),
    field "updated_at" (Record.instant?_render storable.updatedAt) _ (by simp [writtenFields])]
  rfl

/-- A text can hold every field of a storable state. -/
theorem fits_toJson (storable : s.IsStorable) : Json.Fits Json.maxDepth s.toJson := by
  have count {n bound : Nat} (small : n < bound) (le : bound ≤ limit64) :
      Json.Fits 126 (.nat n) := .int (Json.isWhole_of_lt small le)
  have year : Json.IsWhole s.lastResetWeek.year := by
    obtain ⟨low, high⟩ := storable.weekYear
    left
    rw [isWord, decide_eq_true_eq]
    omega
  have number : Json.IsWhole (s.lastResetWeek.number : Int) :=
    Json.isWhole_of_lt storable.weekNumber (by decide)
  have week : Json.Fits 126 (weekToJson s.lastResetWeek) := by
    apply Json.Fits.arr
    simp only [List.forall_mem_cons]
    exact ⟨.int year, .int number, by simp⟩
  have reason : Json.Fits 126 (Json.ofOption Json.str s.breaker.reason) := by
    cases s.breaker.reason with
    | none => exact .null
    | some text => exact .str
  have since : Json.Fits 126 (Json.ofOption (fun t : Instant ↦ .str t.render) s.breaker.since) := by
    cases s.breaker.since with
    | none => exact .null
    | some t => exact .str
  rw [toJson_eq]
  apply Json.Fits.obj
  simp only [writtenFields, List.forall_mem_cons]
  exact ⟨.str, .str, .str, .str, .str, .str, .str, .str, count storable.dailyTrades (by decide),
    count storable.weeklyTrades (by decide), count storable.totalTrades (Nat.le_refl _), .str, .bool,
    reason, since, .str, week, .str, by simp⟩

/-- The stored text of a state is read back. -/
theorem parse?_storedText (storable : s.IsStorable) :
    parse? s.storedText = some s.unsignedZeros := by
  rw [parse?, storedText, Json.parse?_compact (fits_toJson storable), Option.bind_some,
    ofJson?_toJson storable]

/-! ## Operations at times of a clock -/

theorem limit32_pos : 0 < limit32 := by decide

theorem limit64_pos : 0 < limit64 := by decide

theorem isClock_since_clear (t : Instant) (h : Breaker.clear.since = some t) : t.IsClock := by
  cases h

theorem isStorable_new (user : String) (balance : Decimal) (clock : now.IsClock) :
    (new user balance now).IsStorable := by
  obtain ⟨low, high, number⟩ := Date.isoWeek_bounds clock.date
  exact ⟨limit32_pos, limit32_pos, limit64_pos, isClock_since_clear, clock.date, ⟨low, high⟩,
    number, clock⟩

theorem IsStorable.rollOver (kept : s.IsStorable) (clock : now.IsClock) :
    (s.rollOver now).IsStorable := by
  obtain ⟨low, high, number⟩ := Date.isoWeek_bounds clock.date
  have day : (s.toDay now.date).IsStorable := by
    unfold toDay
    split
    · exact kept
    · exact ⟨limit32_pos, kept.weeklyTrades, kept.totalTrades, isClock_since_clear, clock.date,
        kept.weekYear, kept.weekNumber, kept.updatedAt⟩
  unfold State.rollOver toWeek
  split
  · exact day
  · exact ⟨day.dailyTrades, limit32_pos, day.totalTrades, day.since, day.date, ⟨low, high⟩, number,
      day.updatedAt⟩

theorem count?_lt {bound n m : Nat} (h : count? bound n = some m) : m < bound := by
  unfold count? at h
  split at h
  · rename_i room
    cases h
    exact room
  · cases h

theorem IsStorable.recordEntry? (kept : s.IsStorable) (clock : now.IsClock)
    (h : s.recordEntry? now = some s') : s'.IsStorable := by
  have rolled := kept.rollOver clock
  obtain ⟨daily, raisedDaily, h⟩ := Option.bind_eq_some_iff.1 h
  obtain ⟨weekly, raisedWeekly, h⟩ := Option.bind_eq_some_iff.1 h
  obtain ⟨total, raisedTotal, h⟩ := Option.bind_eq_some_iff.1 h
  cases h
  exact ⟨count?_lt raisedDaily, count?_lt raisedWeekly, count?_lt raisedTotal, rolled.since,
    rolled.date, rolled.weekYear, rolled.weekNumber, clock⟩

/-- A new balance leaves the counters and dates, and a breaker that trips takes the time. -/
theorem IsStorable.measured (kept : s.IsStorable) (clock : now.IsClock)
    (h : Measured s s' now) : s'.IsStorable := by
  have since : ∀ t, s'.breaker.since = some t → t.IsClock := by
    obtain same | ⟨reason, tripped⟩ := h.breaker
    · rw [same]
      exact kept.since
    · rw [tripped]
      rintro t ⟨⟩
      exact clock
  rw [h.eq]
  exact ⟨kept.dailyTrades, kept.weeklyTrades, kept.totalTrades, since, kept.date, kept.weekYear,
    kept.weekNumber, kept.updatedAt⟩

theorem IsStorable.operate? {o : Operation} (kept : s.IsStorable)
    (clocks : ∀ now, o.time? = some now → now.IsClock) (h : s.operate? o = some s') :
    s'.IsStorable := by
  cases o with
  | rollOver now =>
    cases h
    exact kept.rollOver (clocks now rfl)
  | entry now => exact kept.recordEntry? (clocks now rfl) h
  | trade profit limit now =>
    have clock := clocks now rfl
    have rolled := kept.rollOver clock
    obtain ⟨balance, daily, weekly, losses, -, measured⟩ := recordTrade?_eq_some h
    apply IsStorable.measured _ clock measured
    exact ⟨rolled.dailyTrades, rolled.weeklyTrades, rolled.totalTrades, rolled.since, rolled.date,
      rolled.weekYear, rolled.weekNumber, clock⟩
  | balance balance limit now =>
    have clock := clocks now rfl
    have rolled := kept.rollOver clock
    obtain ⟨dayStart, weekStart, measured⟩ := setBalance?_eq_some h
    apply IsStorable.measured _ clock measured
    exact ⟨rolled.dailyTrades, rolled.weeklyTrades, rolled.totalTrades, rolled.since, rolled.date,
      rolled.weekYear, rolled.weekNumber, clock⟩
  | trip reason now =>
    cases h
    refine ⟨kept.dailyTrades, kept.weeklyTrades, kept.totalTrades, ?_, kept.date, kept.weekYear,
      kept.weekNumber, kept.updatedAt⟩
    rintro t ⟨⟩
    exact clocks now rfl
  | clear =>
    cases h
    exact ⟨kept.dailyTrades, kept.weeklyTrades, kept.totalTrades, isClock_since_clear, kept.date,
      kept.weekYear, kept.weekNumber, kept.updatedAt⟩

theorem user_rollOver (s : State) (now : Instant) : (s.rollOver now).user = s.user := by
  unfold rollOver toWeek
  split <;> unfold toDay <;> split <;> rfl

theorem user_operate? {o : Operation} (h : s.operate? o = some s') : s'.user = s.user := by
  cases o with
  | rollOver now =>
    cases h
    exact user_rollOver s now
  | entry now =>
    rw [recordEntry?_eq_some h]
    exact user_rollOver s now
  | trade profit limit now =>
    obtain ⟨balance, daily, weekly, losses, -, measured⟩ := recordTrade?_eq_some h
    rw [measured.eq]
    exact user_rollOver s now
  | balance balance limit now =>
    obtain ⟨dayStart, weekStart, measured⟩ := setBalance?_eq_some h
    rw [measured.eq]
    exact user_rollOver s now
  | trip reason now =>
    cases h
    rfl
  | clear =>
    cases h
    rfl

/-! ## Amounts without signed zeros -/

/-- Whether no amount of a state is a zero with a sign. -/
structure IsPlain (s : State) : Prop where
  balance : s.balance.IsPlain
  peakBalance : s.peakBalance.IsPlain
  dayStartBalance : s.dayStartBalance.IsPlain
  weekStartBalance : s.weekStartBalance.IsPlain
  dailyProfit : s.dailyProfit.IsPlain
  weeklyProfit : s.weeklyProfit.IsPlain
  dailyLosses : s.dailyLosses.IsPlain
  drawdown : s.drawdown.IsPlain

theorem IsPlain.unsignedZeros (plain : s.IsPlain) : s.unsignedZeros = s := by
  rw [State.unsignedZeros, Decimal.unsignedZero_of_isPlain plain.balance,
    Decimal.unsignedZero_of_isPlain plain.peakBalance,
    Decimal.unsignedZero_of_isPlain plain.dayStartBalance,
    Decimal.unsignedZero_of_isPlain plain.weekStartBalance,
    Decimal.unsignedZero_of_isPlain plain.dailyProfit,
    Decimal.unsignedZero_of_isPlain plain.weeklyProfit,
    Decimal.unsignedZero_of_isPlain plain.dailyLosses,
    Decimal.unsignedZero_of_isPlain plain.drawdown]

theorem isPlain_new (user : String) {balance : Decimal} (plain : balance.IsPlain)
    (now : Instant) : (new user balance now).IsPlain :=
  ⟨plain, plain, plain, plain, Decimal.isPlain_zero, Decimal.isPlain_zero, Decimal.isPlain_zero,
    Decimal.isPlain_zero⟩

theorem IsPlain.rollOver (kept : s.IsPlain) (now : Instant) : (s.rollOver now).IsPlain := by
  have day : (s.toDay now.date).IsPlain := by
    unfold toDay
    split
    · exact kept
    · exact ⟨kept.balance, kept.peakBalance, kept.balance, kept.weekStartBalance,
        Decimal.isPlain_zero, kept.weeklyProfit, Decimal.isPlain_zero, kept.drawdown⟩
  unfold State.rollOver toWeek
  split
  · exact day
  · exact ⟨day.balance, day.peakBalance, day.dayStartBalance, day.balance, day.dailyProfit,
      Decimal.isPlain_zero, day.dailyLosses, day.drawdown⟩

theorem isPlain_drawdownOf? {peak balance drawdown : Decimal}
    (h : drawdownOf? peak balance = some drawdown) : drawdown.IsPlain := by
  unfold drawdownOf? at h
  split at h
  · obtain ⟨drop, -, h⟩ := Option.bind_eq_some_iff.1 h
    obtain ⟨share, divided, h⟩ := Option.bind_eq_some_iff.1 h
    cases h
    exact (Decimal.div?_isPlain divided).max Decimal.isPlain_zero
  · cases h
    exact Decimal.isPlain_zero

theorem IsPlain.withDrawdown? (kept : s.IsPlain) (h : s.withDrawdown? = some s') :
    s'.IsPlain := by
  obtain ⟨drawdown, fallen, h⟩ := Option.bind_eq_some_iff.1 h
  cases h
  have peak : (if s.peakBalance < s.balance then s.balance else s.peakBalance).IsPlain := by
    split
    · exact kept.balance
    · exact kept.peakBalance
  exact ⟨kept.balance, peak, kept.dayStartBalance, kept.weekStartBalance, kept.dailyProfit,
    kept.weeklyProfit, kept.dailyLosses, isPlain_drawdownOf? fallen⟩

theorem IsPlain.checkBreaker? {limit : Decimal} (kept : s.IsPlain)
    (h : s.checkBreaker? limit now = some s') : s'.IsPlain := by
  rw [(checkBreaker?_eq_some h).1]
  exact ⟨kept.balance, kept.peakBalance, kept.dayStartBalance, kept.weekStartBalance,
    kept.dailyProfit, kept.weeklyProfit, kept.dailyLosses, kept.drawdown⟩

theorem isPlain_lossesAfter? {losses profit after : Decimal} (kept : losses.IsPlain)
    (h : lossesAfter? losses profit = some after) : after.IsPlain := by
  unfold lossesAfter? at h
  split at h
  · rename_i lost
    apply kept.add? _ h
    apply Decimal.isPlain_neg_of_not_isZero
    intro zero
    rw [Decimal.lt_iff, Decimal.isZero_iff.1 zero, Decimal.value_zero] at lost
    exact lt_irrefl _ lost
  · cases h
    exact kept

theorem IsPlain.recordTrade? {profit limit : Decimal} (kept : s.IsPlain) (plain : profit.IsPlain)
    (h : s.recordTrade? profit limit now = some s') : s'.IsPlain := by
  have rolled := kept.rollOver now
  obtain ⟨balance, added, h⟩ := Option.bind_eq_some_iff.1 h
  obtain ⟨daily, addedDaily, h⟩ := Option.bind_eq_some_iff.1 h
  obtain ⟨weekly, addedWeekly, h⟩ := Option.bind_eq_some_iff.1 h
  obtain ⟨losses, lost, h⟩ := Option.bind_eq_some_iff.1 h
  obtain ⟨between, fallen, h⟩ := Option.bind_eq_some_iff.1 h
  apply IsPlain.checkBreaker? _ h
  apply IsPlain.withDrawdown? _ fallen
  exact ⟨rolled.balance.add? plain added, rolled.peakBalance, rolled.dayStartBalance,
    rolled.weekStartBalance, rolled.dailyProfit.add? plain addedDaily,
    rolled.weeklyProfit.add? plain addedWeekly, isPlain_lossesAfter? rolled.dailyLosses lost,
    rolled.drawdown⟩

theorem IsPlain.setBalance? {balance limit : Decimal} (kept : s.IsPlain) (plain : balance.IsPlain)
    (h : s.setBalance? balance limit now = some s') : s'.IsPlain := by
  have rolled := kept.rollOver now
  have filled {start : Decimal} (kept : start.IsPlain) :
      (if start.isZero then balance else start).IsPlain := by
    split
    · exact plain
    · exact kept
  obtain ⟨between, fallen, h⟩ := Option.bind_eq_some_iff.1 h
  apply IsPlain.checkBreaker? _ h
  apply IsPlain.withDrawdown? _ fallen
  exact ⟨plain, rolled.peakBalance, filled rolled.dayStartBalance, filled rolled.weekStartBalance,
    rolled.dailyProfit, rolled.weeklyProfit, rolled.dailyLosses, rolled.drawdown⟩

theorem IsPlain.operate? {o : Operation} (kept : s.IsPlain)
    (amounts : ∀ d, o.amount? = some d → d.IsPlain) (h : s.operate? o = some s') : s'.IsPlain := by
  cases o with
  | rollOver now =>
    cases h
    exact kept.rollOver now
  | entry now =>
    have rolled := kept.rollOver now
    rw [recordEntry?_eq_some h]
    exact ⟨rolled.balance, rolled.peakBalance, rolled.dayStartBalance, rolled.weekStartBalance,
      rolled.dailyProfit, rolled.weeklyProfit, rolled.dailyLosses, rolled.drawdown⟩
  | trade profit limit now => exact kept.recordTrade? (amounts profit rfl) h
  | balance balance limit now => exact kept.setBalance? (amounts balance rfl) h
  | trip reason now =>
    cases h
    exact ⟨kept.balance, kept.peakBalance, kept.dayStartBalance, kept.weekStartBalance,
      kept.dailyProfit, kept.weeklyProfit, kept.dailyLosses, kept.drawdown⟩
  | clear =>
    cases h
    exact ⟨kept.balance, kept.peakBalance, kept.dayStartBalance, kept.weekStartBalance,
      kept.dailyProfit, kept.weeklyProfit, kept.dailyLosses, kept.drawdown⟩

end TradingDesk.Risk.State
