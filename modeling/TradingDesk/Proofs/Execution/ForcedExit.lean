import TradingDesk.Proofs.Decimal.FractionDigits
import TradingDesk.Proofs.Execution.Retry
import TradingDesk.Proofs.Execution.ReportedVolume
import TradingDesk.Proofs.Execution.Service

/-!
# One More Attempt

A forced exit is tried at most twice, and each attempt sends one order, for the whole of what is
still held.  The first attempt leaves book and ledger alone when it allows a second one, so that the
second finds the position that the first one found and sends the same order.  Of the two attempts at
most the last one is filled, and so the position is reduced by one fill at most.

What is said here is about orders and records.  That a broker can fill an order and answer in a way
that allows another attempt is not excluded by it.
-/

namespace TradingDesk

/-- The refusals of an order that was turned down are those of one class. -/
theorem Order.isRejection_iff {refusal : Order.Refusal} :
    refusal.isRejection = true ↔ refusal.kind = "order_rejected" := by
  cases refusal <;> simp [Order.Refusal.isRejection, Order.Refusal.kind]

namespace Execution

/-- Two classes of failure allow another attempt. -/
theorem Error.isRetryable_iff {error : Error} :
    error.isRetryable = true ↔ error.kind = "broker" ∨ error.kind = "order_rejected" := by
  cases error with
  | refused refusal =>
    have other : refusal.kind ≠ "broker" := by cases refusal <;> simp [Order.Refusal.kind]
    simp [isRetryable, kind, other, Order.isRejection_iff]
  | _ => simp [isRetryable, kind]

variable {σ : Type} {e : Engine σ} {d : Desk σ} {user symbol reason : String} {p : Position}
  {order : Order.Request} {x : Engine.Exit} {first o : Outcome σ ExitReport}

/-- Whether an outcome is a failure of the connection or the rejection of an order. -/
def Outcome.AllowsRetry {α : Type} (o : Outcome σ α) : Prop :=
  ∃ error, o.result = .error error ∧ (error.kind = "broker" ∨ error.kind = "order_rejected")

theorem Outcome.AllowsRetry.failsOutsideLedger {α : Type} {o : Outcome σ α}
    (allows : o.AllowsRetry) : o.FailsOutsideLedger := by
  obtain ⟨error, failed, kind⟩ := allows
  refine ⟨error, failed, ?_⟩
  rintro reason rfl
  simp [Error.kind] at kind

namespace Engine

/-! ## An attempt -/

/-- An exit of a held position is its order, and the booking of what was filled of it. -/
theorem exit?_eq_fill? (inside : IsFraction x.fraction)
    (held : d.book.find? x.user x.symbol = some p) (ordered : exitOrder? p x = some order) :
    e.exit? d x = (d.fill? e.broker order).bind (·.andThen? (e.settle? p x)) := by
  unfold exit?
  rw [if_neg (not_isFraction.not_right.1 inside)]
  simp only [held, ordered]
  rfl

/-- What an exit does to a position and the trades: nothing, or one fill of its order takes a part
off the position, and one trade of the quantity of the fill at most is booked. -/
inductive ReducesOnce (d : Desk σ) (p : Position) (x : Exit) (order : Order.Request)
    (d' : Desk σ) : Prop
  | kept (book : d'.book = d.book) (trades : d'.ledger.trades = d.ledger.trades)
  | reduced {answer : Order.Response} {fill : Order.Confirmed} {after : Position}
      (confirmed : Order.confirm? answer order.symbol order.quantity = some (.ok fill))
      (taken : afterExit? p x fill = some after) (book : d'.book = bookAfter d.book after)
      (trades : d'.ledger.trades = d.ledger.trades ∨ ∃ trade, trade.kind = .exit ∧
        trade.quantity = fill.quantity ∧
        d'.ledger.trades = d.ledger.trades ++ [.booked trade])

theorem exit?_reducesOnce (held : d.book.find? x.user x.symbol = some p)
    (ordered : exitOrder? p x = some order) (h : e.exit? d x = some o) :
    ReducesOnce d p x order o.desk := by
  cases exit?_step h with
  | invalid | absent => exact .kept rfl rfl
  | unfilled inside held' ordered' answered =>
    obtain ⟨market, rfl⟩ := Desk.fill?_desk answered
    exact .kept rfl rfl
  | filled inside held' ordered' answered reduced reported =>
    obtain rfl := Option.some.inj (held.symm.trans held')
    obtain rfl := Option.some.inj (ordered.symm.trans ordered')
    obtain ⟨response, market, -, confirmed, rfl⟩ := Desk.fill?_confirmed answered
    refine .reduced confirmed reduced ?_ ?_
    · rw [settled, Desk.bookTrade_desk]
      rfl
    · rw [settled, Desk.bookTrade_desk]
      obtain none | one := trades_recordInto (trades_of_noteExit _ _)
      · exact .inl none
      · exact .inr ⟨_, rfl, rfl, one⟩

/-! ## Two attempts -/

/-- A backoff that grants one delay, and whether it did. -/
structure Backoff where
  used : Bool

/-- The backoff after the delay that it grants, if it grants one. -/
def Backoff.next? (b : Backoff) : Option Backoff :=
  if b.used then none else some ⟨true⟩

/-- Runs an operation again for as long as it fails in a way that allows it and the backoff grants a
delay. -/
def retryWith? {α : Type} (again : Error → Bool) (attempt : Desk σ → Option (Outcome σ α))
    (b : Backoff) (d : Desk σ) : Option (Outcome σ α) := do
  let o ← attempt d
  match o.result with
  | .ok _ => some o
  | .error error =>
    if again error then
      match _ : b.next? with
      | none => some o
      | some b => retryWith? again attempt b o.desk
    else
      some o
termination_by (!b.used).toNat
decreasing_by
  rename_i granted
  unfold Backoff.next? at granted
  split at granted
  · cases granted
  · rename_i unused
    cases granted
    simp [unused]

/-- Without a delay the first attempt is the only one. -/
theorem retryWith?_of_used {α : Type} (again : Error → Bool)
    (attempt : Desk σ → Option (Outcome σ α)) (d : Desk σ) :
    retryWith? again attempt ⟨true⟩ d = attempt d := by
  rw [retryWith?]
  cases attempt d with
  | none => rfl
  | some o =>
    cases ended : o.result with
    | ok value => simp [ended]
    | error error => simp [ended, Backoff.next?]

/-- With a delay there is one more attempt, after a failure that allows it. -/
theorem retryWith?_of_fresh {α : Type} (again : Error → Bool)
    (attempt : Desk σ → Option (Outcome σ α)) (d : Desk σ) :
    retryWith? again attempt ⟨false⟩ d = (attempt d).bind fun o ↦
      match o.result with
      | .ok _ => some o
      | .error error => if again error then attempt o.desk else some o := by
  rw [retryWith?]
  cases attempt d with
  | none => rfl
  | some o =>
    cases ended : o.result with
    | ok value => simp [ended]
    | error error => simp [ended, Backoff.next?, retryWith?_of_used]

/-- A forced exit is an exit that is run again with a backoff of one delay. -/
theorem forceExit?_eq_retryWith? (e : Engine σ) (d : Desk σ) (user symbol reason : String) :
    e.forceExit? d user symbol reason =
      retryWith? Error.isRetryable (e.exit? · (fullExit user symbol reason)) ⟨false⟩ d := by
  rw [retryWith?_of_fresh, forceExit?]
  refine Option.bind_congr fun first _ ↦ ?_
  cases first.result <;> rfl

/-- A forced exit ends with its first attempt, unless that one allows another. -/
theorem forceExit?_eq_of_exit?
    (tried : e.exit? d (fullExit user symbol reason) = some first) :
    (first.AllowsRetry →
      e.forceExit? d user symbol reason = e.exit? first.desk (fullExit user symbol reason)) ∧
    (¬first.AllowsRetry → e.forceExit? d user symbol reason = some first) := by
  rw [forceExit?_eq_retryWith?, retryWith?_of_fresh, tried]
  cases ended : first.result with
  | ok report =>
    have final : ¬first.AllowsRetry := by
      rintro ⟨error, failed, -⟩
      rw [ended] at failed
      cases failed
    exact ⟨fun allows ↦ absurd allows final, fun _ ↦ by simp [ended]⟩
  | error error =>
    have allows : first.AllowsRetry ↔ error.isRetryable = true := by
      rw [Error.isRetryable_iff]
      simp [Outcome.AllowsRetry, ended]
    rw [allows]
    refine ⟨fun again ↦ ?_, fun final ↦ ?_⟩
    · simp [ended, again]
    · simp [ended, final]

/-- What holds of a forced exit of a position whose first attempt had an outcome. -/
structure ForcedExitLaw (e : Engine σ) (d : Desk σ) (user symbol reason : String) (p : Position)
    (order : Order.Request) (first : Outcome σ ExitReport) : Prop where
  sent : first.desk.sent = d.sent ++ [order]
  again : first.AllowsRetry →
    first.desk.book = d.book ∧ first.desk.ledger = d.ledger ∧
      e.forceExit? d user symbol reason = e.exit? first.desk (fullExit user symbol reason) ∧
      ∀ o, e.forceExit? d user symbol reason = some o → o.desk.sent = d.sent ++ [order, order]
  final : ¬first.AllowsRetry → e.forceExit? d user symbol reason = some first
  reduced : ∀ o, e.forceExit? d user symbol reason = some o →
    ReducesOnce d p (fullExit user symbol reason) order o.desk
  unchanged : ∀ o, e.forceExit? d user symbol reason = some o → o.FailsOutsideLedger →
    o.desk.book = d.book ∧ o.desk.ledger = d.ledger

theorem forceExit?_law (held : d.book.find? user symbol = some p)
    (ordered : exitOrder? p (fullExit user symbol reason) = some order)
    (tried : e.exit? d (fullExit user symbol reason) = some first) :
    ForcedExitLaw e d user symbol reason p order first := by
  have sent := sent_exit? isFraction_fullExit held ordered tried
  obtain ⟨again, final⟩ := forceExit?_eq_of_exit? tried
  by_cases allows : first.AllowsRetry
  · obtain ⟨book, ledger⟩ := exit?_unchanged tried allows.failsOutsideLedger
    have held' : first.desk.book.find? user symbol = some p := by
      rw [book]
      exact held
    refine ⟨sent, fun _ ↦ ⟨book, ledger, again allows, ?_⟩, final, ?_, ?_⟩
    all_goals
      intro o forced
      rw [again allows] at forced
    · rw [sent_exit? isFraction_fullExit held' ordered forced, sent, List.append_assoc]
      rfl
    · cases exit?_reducesOnce held' ordered forced with
      | kept book' trades => exact .kept (book'.trans book) (by rw [trades, ledger])
      | reduced confirmed taken book' trades =>
        rw [book] at book'
        rw [ledger] at trades
        exact .reduced confirmed taken book' trades
    · intro failed
      obtain ⟨book', ledger'⟩ := exit?_unchanged forced failed
      exact ⟨book'.trans book, ledger'.trans ledger⟩
  · refine ⟨sent, fun yes ↦ absurd yes allows, final, ?_, ?_⟩
    all_goals
      intro o forced
      rw [final allows] at forced
      obtain rfl := Option.some.inj forced
    · exact exit?_reducesOnce held ordered tried
    · exact exit?_unchanged tried

/-! ## The order -/

/-- The exit of a whole sound position orders what is still held of it. -/
theorem exitOrder?_fullExit (user symbol reason : String) (sound : IsSound p) :
    ∃ held order, p.remainingQuantity? = some held ∧
      exitOrder? p (fullExit user symbol reason) = some order ∧ order.symbol = symbol ∧
      order.side = p.side.opposite ∧ order.quantity.value = (held.round 8).value := by
  obtain ⟨least, whole⟩ := sound.hasShare
  have share : (Decimal.one.min p.remaining).value = p.remaining.value := by
    rw [Decimal.value_min, Decimal.value_one, min_eq_right whole]
  obtain ⟨held, multiplied⟩ := Decimal.mul?_defined p.quantity least whole
  obtain ⟨product, multiplied'⟩ := Decimal.mul?_defined p.quantity (share ▸ least) (share ▸ whole)
  refine ⟨held, ⟨symbol, p.side.opposite, product.round 8⟩, multiplied, ?_, rfl, rfl, ?_⟩
  · simp [exitOrder?, Position.exitQuantity?, fullExit, multiplied']
  · apply Decimal.value_round_congr (Decimal.mul?_nonneg sound.nonneg (share ▸ least) multiplied')
    -- the two products are of the same share, which can be written in two ways when it is one
    by_cases below : p.remaining < Decimal.one
    · rw [Decimal.min, if_pos below] at multiplied'
      rw [Option.some.inj (multiplied'.symm.trans multiplied)]
    · have one : p.remaining.value = 1 := by
        apply le_antisymm whole
        simpa using Decimal.le_iff.1 (Decimal.not_lt.1 below)
      rw [Decimal.value_mul?_of_one sound.nonneg (share.trans one) multiplied',
        Decimal.value_mul?_of_one sound.nonneg one multiplied]

/-! ## Forced exits of an engine in service -/

variable {engine : Engine σ} {market : σ} {killSwitch : KillSwitch} {clock : Instant}
  {events : List (Service.Event σ)} {s : Service σ}

/-- A forced exit of an open position sends the order of what is still held, and sends it once more
exactly if the first attempt failed on the connection or was turned down. -/
theorem forced_exit_retries_once
    (ran : (Service.new engine market killSwitch clock).run? events = some s)
    (held : s.desk.book.find? user symbol = some p) (reason : String) :
    ∃ quantity order, p.remainingQuantity? = some quantity ∧ order.symbol = symbol ∧
      order.side = p.side.opposite ∧ order.quantity.value = (quantity.round 8).value ∧
      (∀ d : Desk σ, d.book.find? user symbol = some p →
        s.engine.exit? d (fullExit user symbol reason) =
          (d.fill? s.engine.broker order).bind
            (·.andThen? (s.engine.settle? p (fullExit user symbol reason)))) ∧
      ∀ first, s.engine.exit? s.desk (fullExit user symbol reason) = some first →
        ForcedExitLaw s.engine s.desk user symbol reason p order first := by
  have desk := Service.run?_isSound (Service.isSound_new engine market killSwitch clock) ran
  obtain ⟨quantity, order, remaining, ordered, inSymbol, onSide, rounded⟩ :=
    exitOrder?_fullExit user symbol reason (desk.held held)
  refine ⟨quantity, order, remaining, inSymbol, onSide, rounded, fun d held' ↦ ?_, ?_⟩
  · exact exit?_eq_fill? isFraction_fullExit held' ordered
  · exact fun first tried ↦ forceExit?_law held ordered tried

end Engine

/-! ## A connection that breaks once -/

/-- An engine that bought at 100, and whose broker does not answer the first order after that. -/
def interruptedService : Service Broker.Script.State :=
  let filled := { partialAnswer "filled" with filledVolume := none }
  Service.new rehearsal [.ok filled, .error "timeout", .ok filled] (KillSwitch.new none)
    Instant.epoch

theorem forced_exit_retries_once_timeout : ∃ s p first o order,
    interruptedService.run? [.call (.enter slippingEntry)] = some s ∧
      s.desk.book.find? "alice" "BTC-USD" = some p ∧
      s.engine.exit? s.desk (Engine.fullExit "alice" "BTC-USD" "stop") = some first ∧
      first.AllowsRetry ∧
      s.engine.forceExit? s.desk "alice" "BTC-USD" "stop" = some o ∧
      order.side = p.side.opposite ∧ o.desk.sent = s.desk.sent ++ [order, order] := by
  have ends : ((interruptedService.run? [.call (.enter slippingEntry)]).bind fun s ↦
      (s.desk.book.find? "alice" "BTC-USD").bind fun p ↦
        (s.engine.exit? s.desk (Engine.fullExit "alice" "BTC-USD" "stop")).bind fun first ↦
          (s.engine.forceExit? s.desk "alice" "BTC-USD" "stop").map fun _ ↦
            match first.result with
            | .error error => error.kind
            | .ok _ => "") = some "broker" := by
    decide +kernel
  obtain ⟨s, ran, ends⟩ := Option.bind_eq_some_iff.1 ends
  obtain ⟨p, held, ends⟩ := Option.bind_eq_some_iff.1 ends
  obtain ⟨first, tried, ends⟩ := Option.bind_eq_some_iff.1 ends
  obtain ⟨o, forced, kind⟩ := Option.map_eq_some_iff.1 ends
  have allows : first.AllowsRetry := by
    split at kind
    · rename_i error failed
      exact ⟨error, failed, .inl kind⟩
    · simp at kind
  obtain ⟨quantity, order, -, -, onSide, -, -, law⟩ :=
    Engine.forced_exit_retries_once ran held "stop"
  obtain ⟨-, -, -, twice⟩ := (law first tried).again allows
  exact ⟨s, p, first, o, order, ran, held, tried, allows, forced, onSide, twice o forced⟩

end Execution

end TradingDesk
