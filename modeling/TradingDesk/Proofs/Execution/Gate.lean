import Mathlib.Tactic.Common
import TradingDesk.Broker.Script
import TradingDesk.Proofs.Execution.Book
import TradingDesk.Proofs.Execution.Step

/-!
# The Gate Fails Closed

An entry or an exit that fails leaves the book and the ledger as they were, unless the ledger itself
failed after a fill.  An entry that is barred sends nothing.  Every other entry sends one order, and
a second one only to trade a fill back whose price slipped too far.
-/

namespace TradingDesk.Execution

variable {σ : Type} {e : Engine σ} {d : Desk σ} {entry : Entry}

/-- Whether an outcome is the failure of an entry whose price slipped too far. -/
def Outcome.IsImmediateLoss (o : Outcome σ Position) : Prop :=
  ∃ expected actual slippage limit,
    o.result = .error (.immediateLoss expected actual slippage limit)

/-- Whether an outcome is a failure other than one of the ledger. -/
def Outcome.FailsOutsideLedger {α : Type} (o : Outcome σ α) : Prop :=
  ∃ error, o.result = .error error ∧ ∀ reason, error ≠ .ledger reason

namespace Engine

/-- Whether an entry is turned away before an order is sent. -/
def Bars (e : Engine σ) (d : Desk σ) (entry : Entry) : Prop :=
  d.killSwitch.isActive entry.user = true ∨ e.broker.supports entry.symbol = false ∨
    entry.price ≤ Decimal.zero ∨ entry.size ≤ Decimal.zero ∨
    (d.book.find? entry.user entry.symbol).isSome = true

theorem screen_eq_ok_iff : e.screen d entry = .ok () ↔ ¬e.Bars d entry := by
  unfold screen Bars KillSwitch.isActive
  cases stopped : d.killSwitch.check entry.user with
  | some reason => simp
  | none =>
    cases supported : e.broker.supports entry.symbol with
    | false => simp
    | true =>
      by_cases bad : entry.price ≤ Decimal.zero ∨ entry.size ≤ Decimal.zero
      · simp only [Bool.not_true, Bool.false_eq_true, ite_false, bad, ite_true]
        simp only [reduceCtorEq, false_iff, not_not]
        exact .inr (.inr (bad.imp id .inl))
      · rw [not_or] at bad
        cases held : d.book.find? entry.user entry.symbol <;> simp [bad]

/-- The user of an entry that is not turned away has no position in the symbol. -/
theorem absent_of_not_bars (passed : ¬e.Bars d entry) :
    d.book.find? entry.user entry.symbol = none := by
  rw [← Option.not_isSome_iff_eq_none]
  exact fun held ↦ passed (.inr (.inr (.inr (.inr held))))

theorem screen_ne_immediateLoss {expected actual slippage limit : Decimal} :
    e.screen d entry ≠ .error (.immediateLoss expected actual slippage limit) := by
  unfold screen
  split
  · simp
  · split
    · simp
    · split
      · simp
      · split <;> simp

/-! ## Entries -/

/-- What holds of an entry however it ends. -/
structure EntryLaw (e : Engine σ) (d : Desk σ) (entry : Entry) (o : Outcome σ Position) :
    Prop where
  unchanged : o.FailsOutsideLedger → o.desk.book = d.book ∧ o.desk.ledger = d.ledger
  barred : e.Bars d entry → ∃ error, o = .failed d error
  lost : o.IsImmediateLoss → ¬e.Bars d entry ∧
    ∃ order d' fill, entryOrder? entry = some order ∧
      d.fill? e.broker order = some (.done d' fill) ∧
      o.desk.sent = d.sent ++ [order, ⟨entry.symbol, entry.side.opposite, fill.quantity⟩]
  kept : ¬e.Bars d entry → ¬o.IsImmediateLoss →
    ∃ order, entryOrder? entry = some order ∧ o.desk.sent = d.sent ++ [order]
  opened : ∀ p, o.result = .ok p →
    (∃ order, o.desk.sent = d.sent ++ [order]) ∧ o.desk.book = d.book ++ [p] ∧
    (∃ trade, trade.kind = .entry ∧ trade.user = entry.user ∧ trade.symbol = entry.symbol ∧
      trade.side = entry.side ∧ o.desk.ledger.trades = d.ledger.trades ++ [.booked trade]) ∧
    o.desk.ledger.positions = d.ledger.positions ++ [⟨.booked p, none, false⟩]

/-- An entry that is booked adds one position and one trade. -/
theorem opened_eq_ok {fill : Order.Confirmed} {p q : Position} {fee : Decimal}
    (absent : d.book.find? p.user p.symbol = none)
    (h : (opened d entry fill p fee).result = .ok q) :
    q = p ∧ (opened d entry fill p fee).desk.book = d.book ++ [p] ∧
      (opened d entry fill p fee).desk.ledger.trades = d.ledger.trades ++
        [.booked (d.trade p entry.side .entry fill fee Decimal.zero "entry")] ∧
      (opened d entry fill p fee).desk.ledger.positions =
        d.ledger.positions ++ [⟨.booked p, none, false⟩] := by
  obtain ⟨l, l', recorded, noted, same, booked⟩ := Desk.bookTrade_ok h
  have recorded := Ledger.recordFill_eq_ok recorded
  have noted := Ledger.openPosition_eq_ok noted
  unfold opened
  rw [booked]
  refine ⟨same, Book.insert_of_absent absent, ?_, ?_⟩
  · simp [Outcome.done, noted, recorded]
  · simp [Outcome.done, noted, recorded]

theorem enter?_law {o : Outcome σ Position} (h : e.enter? d entry = some o) :
    EntryLaw e d entry o := by
  cases enter?_step h with
  | barred screened =>
    rename_i error
    have bars : e.Bars d entry := by
      by_contra passed
      rw [screen_eq_ok_iff.2 passed] at screened
      cases screened
    refine ⟨fun _ ↦ ⟨rfl, rfl⟩, fun _ ↦ ⟨error, rfl⟩, ?_, fun passed ↦ absurd bars passed, ?_⟩
    · rintro ⟨expected, actual, slippage, limit, lost⟩
      cases lost
      exact absurd screened screen_ne_immediateLoss
    · rintro p ⟨⟩
  | unfilled screened ordered answered =>
    obtain ⟨market, rfl⟩ := Desk.fill?_desk answered
    have passed := screen_eq_ok_iff.1 screened
    refine ⟨fun _ ↦ ⟨rfl, rfl⟩, fun bars ↦ absurd bars passed, ?_, fun _ _ ↦ ⟨_, ordered, rfl⟩, ?_⟩
    · rintro ⟨expected, actual, slippage, limit, lost⟩
      cases lost
      obtain ⟨text, reason⟩ | ⟨refusal, reason⟩ := Desk.fill?_failed answered
      · cases reason
      · cases reason
    · rintro p ⟨⟩
  | slipped screened ordered answered measured above unwound =>
    rename_i order d' d'' fill slippage
    have passed := screen_eq_ok_iff.1 screened
    obtain ⟨market, rfl⟩ := Desk.fill?_desk answered
    obtain ⟨market', rfl⟩ := unwind?_desk unwound
    refine ⟨fun _ ↦ ⟨rfl, rfl⟩, fun bars ↦ absurd bars passed, fun _ ↦ ⟨passed, ?_⟩, ?_, ?_⟩
    · exact ⟨order, _, fill, ordered, answered, by simp [Outcome.failed, Desk.afterOrder]⟩
    · exact fun _ kept ↦ absurd ⟨_, _, _, _, rfl⟩ kept
    · rintro p ⟨⟩
  | filled screened ordered answered measured within formed charged =>
    rename_i order d' fill slippage p fee
    have passed := screen_eq_ok_iff.1 screened
    obtain ⟨market, rfl⟩ := Desk.fill?_desk answered
    have desk : (opened (d.afterOrder order market) entry fill p fee).desk.sent =
        d.sent ++ [order] := by
      simp [opened, Desk.bookTrade_desk, Desk.advance, Desk.afterOrder]
    refine ⟨?_, fun bars ↦ absurd bars passed, ?_, fun _ _ ↦ ⟨order, ordered, desk⟩, ?_⟩
    · rintro ⟨error, failed, outside⟩
      obtain ⟨reason, rfl⟩ := Desk.bookTrade_error failed
      exact absurd rfl (outside reason)
    · rintro ⟨expected, actual, slippage, limit, lost⟩
      obtain ⟨reason, wrong⟩ := Desk.bookTrade_error lost
      cases wrong
    · intro q result
      obtain ⟨user, symbol, -⟩ := position?_key formed
      have absent : (d.afterOrder order market).book.find? p.user p.symbol = none := by
        rw [user, symbol]
        exact absent_of_not_bars passed
      obtain ⟨rfl, book, trades, positions⟩ := opened_eq_ok absent result
      exact ⟨⟨order, desk⟩, book, ⟨_, rfl, user, symbol, rfl, trades⟩, positions⟩

/-! ## Exits -/

theorem exit?_unchanged {x : Exit} {o : Outcome σ ExitReport} (h : e.exit? d x = some o)
    (failed : o.FailsOutsideLedger) : o.desk.book = d.book ∧ o.desk.ledger = d.ledger := by
  cases exit?_step h with
  | invalid => exact ⟨rfl, rfl⟩
  | absent => exact ⟨rfl, rfl⟩
  | unfilled inside held ordered answered =>
    obtain ⟨market, rfl⟩ := Desk.fill?_desk answered
    exact ⟨rfl, rfl⟩
  | filled inside held ordered answered reduced reported =>
    obtain ⟨error, failed, outside⟩ := failed
    obtain ⟨reason, rfl⟩ := Desk.bookTrade_error failed
    exact absurd rfl (outside reason)

/-! ## The gate -/

/-- Failures outside the ledger leave book and ledger alone; entries send one order unless they are
barred, and trade back what slipped; and a success adds one trade and one position. -/
theorem gate_fails_closed (e : Engine σ) (d : Desk σ) :
    (∀ entry o, e.enter? d entry = some o → EntryLaw e d entry o) ∧
    ∀ x o, e.exit? d x = some o → o.FailsOutsideLedger →
      o.desk.book = d.book ∧ o.desk.ledger = d.ledger :=
  ⟨fun _ _ ↦ enter?_law, fun _ _ ↦ exit?_unchanged⟩

end Engine

/-! ## A slipped entry and one that opens -/

/-- An engine with the usual settings whose broker answers from a list. -/
def rehearsal : Engine Broker.Script.State :=
  ⟨Settings.standard, Broker.Script.broker []⟩

/-- A desk whose broker fills every part of the first order at a price. -/
def deskFilledAt (price : Decimal) : Desk Broker.Script.State :=
  let answer : Order.Response :=
    { Order.Response.empty with
      status := some "filled"
      orderId := some "first"
      averageFilledPrice := some price }
  Desk.new [.ok answer] (KillSwitch.new none) Instant.epoch

/-- A desk whose broker fills every part of the first order at a tenth above 100. -/
def slippingDesk : Desk Broker.Script.State :=
  deskFilledAt (Decimal.const 110 0)

/-- An entry of 100 at a price of 100. -/
def slippingEntry : Entry :=
  ⟨"alice", "BTC-USD", .buy, Decimal.const 100 0, Decimal.const 100 0⟩

/-- At 110 the entry slips and is traded back, at 100 it opens a position. -/
theorem gate_fails_closed_slipped :
    (∃ o, rehearsal.enter? slippingDesk slippingEntry = some o ∧ o.IsImmediateLoss ∧
      (∃ order d' fill, slippingDesk.fill? rehearsal.broker order = some (.done d' fill) ∧
        o.desk.sent = [order, ⟨"BTC-USD", .sell, fill.quantity⟩]) ∧
      o.desk.book = slippingDesk.book ∧ o.desk.ledger = slippingDesk.ledger) ∧
    ∃ o p, rehearsal.enter? (deskFilledAt (Decimal.const 100 0)) slippingEntry = some o ∧
      o.result = .ok p ∧ (∃ order, o.desk.sent = [order]) ∧ o.desk.book = [p] ∧
      (∃ trade, trade.kind = .entry ∧ trade.user = "alice" ∧
        o.desk.ledger.trades = [.booked trade]) ∧
      o.desk.ledger.positions = [⟨.booked p, none, false⟩] := by
  constructor
  · have ran : (rehearsal.enter? slippingDesk slippingEntry).any (fun o ↦
        match o.result with
        | .error (.immediateLoss _ _ _ _) => true
        | _ => false) = true := by
      decide +kernel
    obtain ⟨o, entered, failed⟩ := (Option.any_eq_true _ _).1 ran
    have law := (Engine.gate_fails_closed rehearsal slippingDesk).1 slippingEntry o entered
    have lost : o.IsImmediateLoss := by
      split at failed
      · rename_i reason
        exact ⟨_, _, _, _, reason⟩
      · cases failed
    obtain ⟨-, order, d', fill, -, answered, sent⟩ := law.lost lost
    obtain ⟨expected, actual, slippage, limit, reason⟩ := lost
    have unchanged := law.unchanged ⟨_, reason, fun _ wrong ↦ by cases wrong⟩
    exact ⟨o, entered, ⟨_, _, _, _, reason⟩, ⟨order, d', fill, answered, sent⟩, unchanged⟩
  · have ran : (rehearsal.enter? (deskFilledAt (Decimal.const 100 0)) slippingEntry).any (fun o ↦
        match o.result with
        | .ok _ => true
        | .error _ => false) = true := by
      decide +kernel
    obtain ⟨o, entered, succeeded⟩ := (Option.any_eq_true _ _).1 ran
    have law := (Engine.gate_fails_closed rehearsal _).1 slippingEntry o entered
    cases result : o.result with
    | error reason =>
      rw [result] at succeeded
      cases succeeded
    | ok p =>
      obtain ⟨sent, book, ⟨trade, kind, user, -, -, booked⟩, positions⟩ := law.opened p result
      exact ⟨o, p, entered, result, sent, book, ⟨trade, kind, user, booked⟩, positions⟩

end TradingDesk.Execution
