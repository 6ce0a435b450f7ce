import Mathlib.Tactic.Common
import TradingDesk.Execution.Engine
import TradingDesk.Proofs.Ledger.Writes

/-!
# Steps of Execution

Everything that execution does comes down to one order, one entry or one exit.  The relations of
this module list their ways out, each with the checks that were passed before it and with the desk
that it leaves behind, so that a law about execution is proved by one case for each way out.

An order changes the broker and the list of sent orders and nothing else.  Booking a trade changes
the ledger and draws a name and a time.
-/

namespace TradingDesk.Execution

variable {σ α : Type}

namespace Desk

variable {d : Desk σ}

/-! ## Orders -/

/-- The desk after an order went to the broker. -/
def afterOrder (d : Desk σ) (order : Order.Request) (market : σ) : Desk σ :=
  { d with market := market, sent := d.sent ++ [order] }

/-- The ways in which an order ends. -/
inductive OrderStep (broker : Broker σ) (d : Desk σ) (order : Order.Request) :
    Outcome σ Order.Confirmed → Prop
  | unreachable {text : String} {market : σ}
      (placed : broker.place d.market order = some (.error text, market)) :
      OrderStep broker d order (.failed (d.afterOrder order market) (.connection text))
  | refused {response : Order.Response} {refusal : Order.Refusal} {market : σ}
      (placed : broker.place d.market order = some (.ok response, market))
      (checked : Order.confirm? response order.symbol order.quantity = some (.error refusal)) :
      OrderStep broker d order (.failed (d.afterOrder order market) (.refused refusal))
  | confirmed {response : Order.Response} {fill : Order.Confirmed} {market : σ}
      (placed : broker.place d.market order = some (.ok response, market))
      (checked : Order.confirm? response order.symbol order.quantity = some (.ok fill)) :
      OrderStep broker d order (.done (d.afterOrder order market) fill)

theorem fill?_step {broker : Broker σ} {order : Order.Request} {o : Outcome σ Order.Confirmed}
    (h : d.fill? broker order = some o) : OrderStep broker d order o := by
  obtain ⟨⟨answer, market⟩, placed, rest⟩ := Option.bind_eq_some_iff.1 h
  cases answer with
  | error text =>
    cases rest
    exact .unreachable placed
  | ok response =>
    obtain ⟨checked, confirmed, rest⟩ := Option.bind_eq_some_iff.1 rest
    cases checked with
    | error refusal =>
      cases rest
      exact .refused placed confirmed
    | ok fill =>
      cases rest
      exact .confirmed placed confirmed

theorem fill?_desk {broker : Broker σ} {order : Order.Request} {d' : Desk σ}
    {result : Except Error Order.Confirmed} (h : d.fill? broker order = some ⟨d', result⟩) :
    ∃ market, d' = d.afterOrder order market := by
  change ∃ market, (Outcome.mk d' result).desk = d.afterOrder order market
  cases fill?_step h with
  | unreachable => exact ⟨_, rfl⟩
  | refused => exact ⟨_, rfl⟩
  | confirmed => exact ⟨_, rfl⟩

/-- A fill confirms an answer of the broker. -/
theorem fill?_confirmed {broker : Broker σ} {order : Order.Request} {d' : Desk σ}
    {fill : Order.Confirmed} (h : d.fill? broker order = some (.done d' fill)) :
    ∃ response market, broker.place d.market order = some (.ok response, market) ∧
      Order.confirm? response order.symbol order.quantity = some (.ok fill) ∧
      d' = d.afterOrder order market := by
  generalize filled : Outcome.done d' fill = o at h
  cases fill?_step h with
  | unreachable => cases filled
  | refused => cases filled
  | confirmed placed checked =>
    cases filled
    exact ⟨_, _, placed, checked, rfl⟩

theorem fill?_failed {broker : Broker σ} {order : Order.Request} {d' : Desk σ} {error : Error}
    (h : d.fill? broker order = some (.failed d' error)) :
    (∃ text, error = .connection text) ∨ ∃ refusal, error = .refused refusal := by
  generalize failed : Outcome.failed d' error = o at h
  cases fill?_step h with
  | unreachable =>
    cases failed
    exact .inl ⟨_, rfl⟩
  | refused =>
    cases failed
    exact .inr ⟨_, rfl⟩
  | confirmed => cases failed

/-! ## Booking -/

theorem bookTrade_ok {trade : Trade} {next : Ledger → Except Ledger.Error Ledger}
    {value result : α} (h : (d.bookTrade trade next value).result = .ok result) :
    ∃ l l', d.ledger.recordFill trade = .ok l ∧ next l = .ok l' ∧ result = value ∧
      d.bookTrade trade next value = .done { d.advance with ledger := l' } value := by
  cases recorded : d.ledger.recordFill trade with
  | error reason => simp [bookTrade, recordInto, recorded, Outcome.failed] at h
  | ok l =>
    cases noted : next l with
    | error reason => simp [bookTrade, recordInto, recorded, noted, Outcome.failed] at h
    | ok l' =>
      have booked : d.bookTrade trade next value = .done { d.advance with ledger := l' } value := by
        simp [bookTrade, recordInto, recorded, noted]
      rw [booked] at h
      exact ⟨l, l', rfl, noted, (Except.ok.inj h).symm, booked⟩

theorem bookTrade_error {trade : Trade} {next : Ledger → Except Ledger.Error Ledger} {value : α}
    {error : Error} (h : (d.bookTrade trade next value).result = .error error) :
    ∃ reason, error = .ledger reason := by
  cases recorded : d.ledger.recordFill trade with
  | error reason =>
    simp only [bookTrade, recordInto, recorded, Outcome.failed, Except.error.injEq] at h
    exact ⟨reason, h.symm⟩
  | ok l =>
    cases noted : next l with
    | error reason =>
      simp only [bookTrade, recordInto, recorded, noted, Outcome.failed, Except.error.injEq] at h
      exact ⟨reason, h.symm⟩
    | ok l' => simp [bookTrade, recordInto, recorded, noted, Outcome.done] at h

/-- Booking a trade leaves everything but the ledger, the next name and the time as it was. -/
theorem bookTrade_desk (d : Desk σ) (trade : Trade)
    (next : Ledger → Except Ledger.Error Ledger) (value : α) :
    (d.bookTrade trade next value).desk =
      { d.advance with ledger := (recordInto d.ledger trade next).1 } := by
  unfold bookTrade
  split
  rename_i ledger written eq
  rw [eq]
  cases written <;> rfl

end Desk

namespace Engine

variable {e : Engine σ} {d : Desk σ}

/-! ## Entries -/

/-- The desk with a position that a fill opened, before its trade is booked. -/
def opened (d : Desk σ) (entry : Entry) (fill : Order.Confirmed) (p : Position) (fee : Decimal) :
    Outcome σ Position :=
  Desk.bookTrade { d with book := d.book.insert p }
    (d.trade p entry.side .entry fill fee Decimal.zero "entry") (·.openPosition p) p

/-- The ways in which an entry ends. -/
inductive EntryStep (e : Engine σ) (d : Desk σ) (entry : Entry) : Outcome σ Position → Prop
  | barred {error : Error} (screened : e.screen d entry = .error error) :
      EntryStep e d entry (.failed d error)
  | unfilled {order : Order.Request} {d' : Desk σ} {error : Error}
      (screened : e.screen d entry = .ok ()) (ordered : entryOrder? entry = some order)
      (answered : d.fill? e.broker order = some (.failed d' error)) :
      EntryStep e d entry (.failed d' error)
  | slipped {order : Order.Request} {d' d'' : Desk σ} {fill : Order.Confirmed}
      {slippage : Decimal} (screened : e.screen d entry = .ok ())
      (ordered : entryOrder? entry = some order)
      (answered : d.fill? e.broker order = some (.done d' fill))
      (measured : slippage? entry.side entry.price fill.price = some slippage)
      (above : e.settings.maxSlippage < slippage)
      (unwound : e.unwind? d' entry fill = some d'') :
      EntryStep e d entry
        (.failed d'' (.immediateLoss entry.price fill.price slippage e.settings.maxSlippage))
  | filled {order : Order.Request} {d' : Desk σ} {fill : Order.Confirmed} {slippage : Decimal}
      {p : Position} {fee : Decimal} (screened : e.screen d entry = .ok ())
      (ordered : entryOrder? entry = some order)
      (answered : d.fill? e.broker order = some (.done d' fill))
      (measured : slippage? entry.side entry.price fill.price = some slippage)
      (within : ¬e.settings.maxSlippage < slippage)
      (formed : e.position? entry fill d'.clock = some p)
      (charged : e.settings.fee? fill.quantity fill.price = some fee) :
      EntryStep e d entry (opened d' entry fill p fee)

theorem enter?_step {entry : Entry} {o : Outcome σ Position} (h : e.enter? d entry = some o) :
    EntryStep e d entry o := by
  unfold enter? at h
  split at h
  · rename_i screened
    cases h
    exact .barred screened
  · rename_i screened
    obtain ⟨order, ordered, h⟩ := Option.bind_eq_some_iff.1 h
    obtain ⟨⟨d', result⟩, answered, h⟩ := Option.bind_eq_some_iff.1 h
    cases result with
    | error error =>
      cases h
      exact .unfilled screened ordered answered
    | ok fill =>
      obtain ⟨slippage, measured, h⟩ := Option.bind_eq_some_iff.1 h
      split at h
      · rename_i above
        obtain ⟨d'', unwound, h⟩ := Option.bind_eq_some_iff.1 h
        cases h
        exact .slipped screened ordered answered measured above unwound
      · rename_i within
        obtain ⟨p, formed, h⟩ := Option.bind_eq_some_iff.1 h
        obtain ⟨fee, charged, h⟩ := Option.bind_eq_some_iff.1 h
        cases h
        exact .filled screened ordered answered measured within formed charged

/-- An entry orders in its symbol and on its side. -/
theorem entryOrder?_key {entry : Entry} {order : Order.Request}
    (h : entryOrder? entry = some order) :
    order.symbol = entry.symbol ∧ order.side = entry.side := by
  obtain ⟨quantity, -, h⟩ := Option.bind_eq_some_iff.1 h
  cases h
  exact ⟨rfl, rfl⟩

/-- A position is filed under the user and the symbol of its entry, at the price of the fill. -/
theorem position?_key {entry : Entry} {fill : Order.Confirmed} {now : Instant} {p : Position}
    (h : e.position? entry fill now = some p) :
    p.user = entry.user ∧ p.symbol = entry.symbol ∧ p.entryPrice = fill.price := by
  obtain ⟨levels, -, h⟩ := Option.bind_eq_some_iff.1 h
  cases h
  exact ⟨rfl, rfl, rfl⟩

theorem unwind?_desk {entry : Entry} {fill : Order.Confirmed} {d' : Desk σ}
    (h : e.unwind? d entry fill = some d') :
    ∃ market, d' = d.afterOrder ⟨entry.symbol, entry.side.opposite, fill.quantity⟩ market := by
  obtain ⟨⟨d', result⟩, answered, h⟩ := Option.bind_eq_some_iff.1 h
  cases h
  exact Desk.fill?_desk answered

/-! ## Exits -/

/-- An exit orders in its symbol and on the side opposite to its position. -/
theorem exitOrder?_key {p : Position} {x : Exit} {order : Order.Request}
    (h : exitOrder? p x = some order) :
    order.symbol = x.symbol ∧ order.side = p.side.opposite := by
  obtain ⟨quantity, -, h⟩ := Option.bind_eq_some_iff.1 h
  cases h
  exact ⟨rfl, rfl⟩

/-- An exit changes the remaining fraction and the flags of its position and nothing else. -/
theorem afterExit?_eq {p after : Position} {x : Exit} {fill : Order.Confirmed}
    (h : afterExit? p x fill = some after) :
    after = { p with remaining := after.remaining, ladderHits := after.ladderHits } := by
  obtain ⟨fraction, -, h⟩ := Option.bind_eq_some_iff.1 h
  obtain ⟨reduced, reduce, h⟩ := Option.bind_eq_some_iff.1 h
  obtain ⟨remaining, -, reduce⟩ := Option.bind_eq_some_iff.1 reduce
  cases reduce
  cases h
  split <;> rfl

theorem report?_closed {after : Position} {x : Exit} {fill : Order.Confirmed}
    {report : ExitReport} (h : e.report? after x fill = some report) :
    report.closed = after.isClosed := by
  obtain ⟨profit, -, h⟩ := Option.bind_eq_some_iff.1 h
  obtain ⟨entryFee, -, h⟩ := Option.bind_eq_some_iff.1 h
  obtain ⟨fee, -, h⟩ := Option.bind_eq_some_iff.1 h
  cases h
  rfl

/-- The outcome of an exit fill. -/
def settled (d : Desk σ) (p after : Position) (x : Exit) (fill : Order.Confirmed)
    (report : ExitReport) : Outcome σ ExitReport :=
  Desk.bookTrade { d with book := bookAfter d.book after }
    (d.trade after p.side.opposite .exit fill report.fee report.profit x.reason)
    (noteExit after fill.price) report

/-- An exit fill changes the book, the ledger, the next name and the time. -/
theorem settled_desk (d : Desk σ) (p after : Position) (x : Exit) (fill : Order.Confirmed)
    (report : ExitReport) : ∃ ledger, (settled d p after x fill report).desk =
      { d.advance with book := bookAfter d.book after, ledger := ledger } :=
  ⟨_, Desk.bookTrade_desk _ _ _ _⟩

/-- Whether a fraction can be exited. -/
def IsFraction (f : Decimal) : Prop :=
  Decimal.zero < f ∧ f ≤ Decimal.one

/-- The ways in which an exit ends. -/
inductive ExitStep (e : Engine σ) (d : Desk σ) (x : Exit) : Outcome σ ExitReport → Prop
  | invalid (outside : ¬IsFraction x.fraction) :
      ExitStep e d x (.failed d (.invalidFraction x.fraction))
  | absent (inside : IsFraction x.fraction) (unheld : d.book.find? x.user x.symbol = none) :
      ExitStep e d x (.failed d (.noPosition x.user x.symbol))
  | unfilled {p : Position} {order : Order.Request} {d' : Desk σ} {error : Error}
      (inside : IsFraction x.fraction) (held : d.book.find? x.user x.symbol = some p)
      (ordered : exitOrder? p x = some order)
      (answered : d.fill? e.broker order = some (.failed d' error)) :
      ExitStep e d x (.failed d' error)
  | filled {p after : Position} {order : Order.Request} {d' : Desk σ} {fill : Order.Confirmed}
      {report : ExitReport} (inside : IsFraction x.fraction)
      (held : d.book.find? x.user x.symbol = some p) (ordered : exitOrder? p x = some order)
      (answered : d.fill? e.broker order = some (.done d' fill))
      (reduced : afterExit? p x fill = some after)
      (reported : e.report? after x fill = some report) :
      ExitStep e d x (settled d' p after x fill report)

theorem not_isFraction {f : Decimal} :
    ¬IsFraction f ↔ f ≤ Decimal.zero ∨ Decimal.one < f := by
  rw [IsFraction, not_and_or, Decimal.not_lt, Decimal.not_le]

theorem exit?_step {x : Exit} {o : Outcome σ ExitReport} (h : e.exit? d x = some o) :
    ExitStep e d x o := by
  unfold exit? at h
  split at h
  · rename_i outside
    cases h
    exact .invalid (not_isFraction.2 outside)
  · rename_i inside
    have inside : IsFraction x.fraction := by
      rwa [← not_isFraction, not_not] at inside
    split at h
    · rename_i unheld
      cases h
      exact .absent inside unheld
    · rename_i p held
      obtain ⟨order, ordered, h⟩ := Option.bind_eq_some_iff.1 h
      obtain ⟨⟨d', result⟩, answered, h⟩ := Option.bind_eq_some_iff.1 h
      cases result with
      | error error =>
        cases h
        exact .unfilled inside held ordered answered
      | ok fill =>
        obtain ⟨after, reduced, h⟩ := Option.bind_eq_some_iff.1 h
        obtain ⟨report, reported, h⟩ := Option.bind_eq_some_iff.1 h
        cases h
        exact .filled inside held ordered answered reduced reported

end Engine

end TradingDesk.Execution
