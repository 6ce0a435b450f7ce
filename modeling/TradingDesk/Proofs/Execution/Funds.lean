import TradingDesk.Proofs.Execution.Accounts
import TradingDesk.Proofs.Execution.Nets

/-!
# The Cash behind the Trades

Where the paper broker takes the fee that execution expects, every trade in the ledger says what its
fill moved the cash by.  One kind of fill has no trade: those of an entry that slipped too far and
was traded back.  What they took from the cash is nowhere on record.

Apart from these, the cash is the funds at the start and what the trades added to it.
-/

namespace TradingDesk

namespace Broker.Paper

variable {s : Settings} {b b' : State} {r : Order.Request}

/-! ## Paid orders -/

/-- Whether an order that is filled has a positive price, and the amounts that move the cash need no
rounding: the value of the fill, the fee, and the change of the cash. -/
def PaysExactly (s : Settings) (b : State) (r : Order.Request) : Prop :=
  ∀ mark ∈ b.prices.find? r.symbol, ∀ quote ∈ quote? s b mark r,
    ∀ change ∈ cashChange? quote.notional quote.fee r.side,
      Decimal.zero < quote.price ∧ Decimal.MultipliesExactly quote.price r.quantity ∧
        Decimal.MultipliesExactly quote.notional s.fee ∧
        ChangesExactly quote.notional quote.fee r.side ∧ Decimal.AddsExactly b.cash change

instance (s : Settings) (b : State) (r : Order.Request) : Decidable (PaysExactly s b r) :=
  inferInstanceAs (Decidable (∀ mark ∈ b.prices.find? r.symbol, _))

/-- An order is refused and moves nothing, or it is filled and moves the value of the fill and the
fee. -/
theorem place?_paid {answer : Except String Order.Response} (exact : PaysExactly s b r)
    (h : place? s b r = some (answer, b')) :
    Answered b r (fun price b' ↦ b'.cash.value =
      b.cash.value - (r.side.sign + s.fee.value) * (r.quantity.value * price.value)) answer b' := by
  rcases place?_eq h with ⟨rfl, unnamed⟩ |
    ⟨mark, quote, change, response, rfl, found, ordered, quoted, changed, -, settled⟩
  · exact .refused unnamed
  · obtain ⟨positive, valued, charged, moved, cashed⟩ := exact mark found quote quoted change changed
    obtain ⟨price, -, quoted⟩ := Option.bind_eq_some_iff.1 quoted
    obtain ⟨notional, multiplied, quoted⟩ := Option.bind_eq_some_iff.1 quoted
    obtain ⟨fee, taken, quoted⟩ := Option.bind_eq_some_iff.1 quoted
    cases quoted
    obtain ⟨cash, _, _, added, -, -, -, rfl, rfl⟩ := settle?_eq settled
    refine .filled ordered positive ?_
    change cash.value = _
    rw [cashed cash added, value_cashChange? moved changed, charged fee taken,
      valued notional multiplied]
    ring

end Broker.Paper

namespace Execution

open Broker.Paper (PaysExactly)

variable {settings : Settings} {s : Broker.Paper.Settings} {user : String} {funds : ℚ}
  {d d' : Desk Broker.Paper.State}

namespace Desk

variable {order : Order.Request}

/-- A confirmed order moved the cash by the value of its fill and by the fee. -/
theorem fill?_paid {fill : Order.Confirmed} (exact : PaysExactly s d.market order)
    (h : d.fill? (Broker.Paper.broker s) order = some (.done d' fill)) :
    d'.market.cash.value = d.market.cash.value -
      (order.side.sign + s.fee.value) * (fill.quantity.value * fill.price.value) := by
  obtain ⟨-, quantity, cash⟩ := fill?_answered (Broker.Paper.place?_paid exact) h
  rw [cash, quantity]

/-- An order that was not confirmed moved no cash. -/
theorem fill?_unpaid {error : Error} (exact : PaysExactly s d.market order)
    (h : d.fill? (Broker.Paper.broker s) order = some (.failed d' error)) :
    d'.market.cash = d.market.cash := by
  rw [fill?_unanswered (Broker.Paper.place?_paid exact) h]
  rfl

/-- What left the cash between two desks without a position to show for it. -/
def unbacked (user symbol : String) (d d' : Desk Broker.Paper.State) : ℚ :=
  if (d'.book.find? user symbol).isSome then 0 else d.market.cash.value - d'.market.cash.value

theorem unbacked_of_cash {symbol : String} (same : d'.market.cash = d.market.cash) :
    d.unbacked user symbol d' = 0 := by
  rw [unbacked, same, sub_self, ite_self]

theorem unbacked_of_held {symbol : String} {p : Position}
    (held : d'.book.find? user symbol = some p) : d.unbacked user symbol d' = 0 := by
  rw [unbacked, held]
  rfl

theorem unbacked_of_absent {symbol : String} (absent : d'.book.find? user symbol = none) :
    d.unbacked user symbol d' = d.market.cash.value - d'.market.cash.value := by
  rw [unbacked, absent]
  rfl

end Desk

/-! ## Funds of a desk -/

/-- The trades of one user explain the cash of a desk: it is the funds and what the trades added to
it, each of them with its fee, and the trades and the open positions are accounted for. -/
structure Funded (settings : Settings) (s : Broker.Paper.Settings) (user : String) (funds : ℚ)
    (d : Desk Broker.Paper.State) : Prop where
  writable : d.Writable
  cash : d.market.cash.value = funds + (d.ledger.history.map (·.cashAfterFee s.fee.value)).sum
  own : ∀ t ∈ d.ledger.history, t.user = user
  charged : ∀ t ∈ d.ledger.history, settings.fee? t.quantity t.price = some t.fee
  accounted : Ledger.Accounted d.ledger.history
  holds : d.HoldsLots

namespace Funded

theorem new (settings : Settings) (s : Broker.Paper.Settings) (user : String)
    (market : Broker.Paper.State) (killSwitch : KillSwitch) (clock : Instant) :
    Funded settings s user market.cash.value (Desk.new market killSwitch clock) where
  writable := Desk.writable_new market killSwitch clock
  cash := (add_zero _).symm
  own _ mem := by cases mem
  charged _ mem := by cases mem
  accounted := Ledger.Accounted.nil
  holds _ _ _ held := by cases held

/-- A desk with the same trades and positions is funded by as much less as it has less cash. -/
theorem of_same (a : Funded settings s user funds d) (writable : d'.Writable)
    (book : d'.book = d.book) (history : d'.ledger.history = d.ledger.history) :
    Funded settings s user (funds - (d.market.cash.value - d'.market.cash.value)) d' where
  writable := writable
  cash := by
    rw [a.cash, history]
    ring
  own := history ▸ a.own
  charged := history ▸ a.charged
  accounted := history ▸ a.accounted
  holds := by
    unfold Desk.HoldsLots
    rw [book, history]
    exact a.holds

/-- A desk with the same trades, positions and cash is funded alike. -/
theorem of_cash (a : Funded settings s user funds d) (writable : d'.Writable)
    (book : d'.book = d.book) (history : d'.ledger.history = d.ledger.history)
    (cash : d'.market.cash = d.market.cash) : Funded settings s user funds d' := by
  have same := a.of_same writable book history
  rwa [cash, sub_self, sub_zero] at same

/-- Only the user who traded has open positions. -/
theorem user_of_held {other symbol : String} {p : Position} (a : Funded settings s user funds d)
    (held : d.book.find? other symbol = some p) : other = user := by
  obtain ⟨lot, latest, -⟩ := a.holds other symbol p held
  have own := a.own lot.entry (a.accounted.entry_mem (List.mem_of_find?_eq_some latest))
  rw [← own]
  exact (Ledger.Lot.isAt_iff.1 (List.find?_some latest)).1.symm

theorem of_backed {symbol : String} (a : Funded settings s user funds d')
    (backed : d.unbacked user symbol d' = 0) :
    Funded settings s user (funds - d.unbacked user symbol d') d' := by
  rwa [backed, sub_zero]

/-- A desk without a position is funded by as much less as it has less cash. -/
theorem of_absent {symbol : String} (a : Funded settings s user funds d) (writable : d'.Writable)
    (book : d'.book = d.book) (history : d'.ledger.history = d.ledger.history)
    (absent : d.book.find? user symbol = none) :
    Funded settings s user (funds - d.unbacked user symbol d') d' := by
  rw [Desk.unbacked_of_absent (book ▸ absent)]
  exact a.of_same writable book history

/-- A desk stays funded by a trade that books a fill. -/
theorem book {t : Trade} (a : Funded settings s user funds d) (writable : d'.Writable)
    (history : d'.ledger.history = t :: d.ledger.history) (own : t.user = user)
    (charged : settings.fee? t.quantity t.price = some t.fee)
    (cash : d'.market.cash.value =
      d.market.cash.value - (t.side.sign + s.fee.value) * (t.quantity.value * t.price.value))
    (accounted : Ledger.Accounted d'.ledger.history) (holds : d'.HoldsLots) :
    Funded settings s user funds d' where
  writable := writable
  cash := by
    rw [cash, a.cash, history, List.map_cons, List.sum_cons, Trade.cashAfterFee, Trade.cashFlow]
    ring
  own := history ▸ List.forall_mem_cons.2 ⟨own, a.own⟩
  charged := history ▸ List.forall_mem_cons.2 ⟨charged, a.charged⟩
  accounted := accounted
  holds := holds

end Funded

namespace Engine

/-- An entry keeps a desk funded, up to what it took from the cash without opening a position. -/
theorem enter?_funded {entry : Entry} {o : Outcome Broker.Paper.State Position}
    (a : Funded settings s entry.user funds d)
    (h : (onPaper settings s).enter? d entry = some o)
    (met : d.OrdersMeet (Broker.Paper.broker s) (PaysExactly s) o.desk) :
    Funded settings s entry.user (funds - d.unbacked entry.user entry.symbol o.desk) o.desk := by
  have writable := enter?_writable a.writable h
  cases enter?_step h with
  | barred => exact a.of_backed (Desk.unbacked_of_cash rfl)
  | unfilled screened ordered answered =>
    have exact := (Desk.ordersMeet_fill? answered rfl).1 met
    have same := Desk.fill?_unpaid exact answered
    obtain ⟨market, rfl⟩ := Desk.fill?_desk answered
    exact (a.of_cash writable rfl rfl same).of_backed (Desk.unbacked_of_cash same)
  | slipped screened ordered answered measured above unwound =>
    have absent := absent_of_not_bars (screen_eq_ok_iff.1 screened)
    obtain ⟨market, rfl⟩ := Desk.fill?_desk answered
    obtain ⟨market', rfl⟩ := unwind?_desk unwound
    exact a.of_absent writable rfl rfl absent
  | @filled order d' fill _ p fee screened ordered answered measured within formed charged =>
    obtain ⟨ofUser, inSymbol, price⟩ := position?_key formed
    obtain ⟨-, sided⟩ := entryOrder?_key ordered
    obtain ⟨market, rfl⟩ := Desk.fill?_desk answered
    have writable' := a.writable.afterOrder order market
    rw [opened_of_writable writable'] at met ⊢
    have exact := (Desk.ordersMeet_fill? answered rfl).1 met
    have cash := Desk.fill?_paid exact answered
    rw [sided] at cash
    have held : (afterEntry (d.afterOrder order market) entry fill p fee).book.find? entry.user
        entry.symbol = some p := by
      rw [← ofUser, ← inSymbol]
      exact Book.find?_insert_self d.book p
    have accounted : Ledger.Accounted
        (afterEntry (d.afterOrder order market) entry fill p fee).ledger.history := by
      rw [history_afterEntry]
      exact a.accounted.entry rfl rfl
    have holds : (d.afterOrder order market).HoldsLots := a.holds
    have booked := a.book (writable_afterEntry writable' entry fill p fee)
      (history_afterEntry _ entry fill p fee) ofUser charged cash accounted
      (holdsLots_afterEntry holds (opens_entryTrade formed))
    exact booked.of_backed (Desk.unbacked_of_held held)

/-- An exit keeps a desk funded. -/
theorem exit?_funded {x : Exit} {o : Outcome Broker.Paper.State ExitReport}
    (a : Funded settings s user funds d) (h : (onPaper settings s).exit? d x = some o)
    (met : d.OrdersMeet (Broker.Paper.broker s) (PaysExactly s) o.desk) :
    Funded settings s user funds o.desk := by
  have writable := exit?_writable a.writable h
  cases exit?_step h with
  | invalid => exact a
  | absent => exact a
  | unfilled inside held ordered answered =>
    have exact := (Desk.ordersMeet_fill? answered rfl).1 met
    have same := Desk.fill?_unpaid exact answered
    obtain ⟨market, rfl⟩ := Desk.fill?_desk answered
    exact a.of_cash writable rfl rfl same
  | @filled p after order d' fill report inside held ordered answered reduced reported =>
    obtain ⟨market, rfl⟩ := Desk.fill?_desk answered
    have writable' := a.writable.afterOrder order market
    rw [settled_of_writable writable'] at met ⊢
    have exact := (Desk.ordersMeet_fill? answered rfl).1 met
    have cash := Desk.fill?_paid exact answered
    obtain ⟨-, sided⟩ := exitOrder?_key ordered
    rw [sided] at cash
    obtain ⟨here, -⟩ := Book.of_find?_eq_some held
    have own : after.user = user := by
      rw [← a.user_of_held held, ← here, afterExit?_eq reduced]
    have charged : settings.fee? fill.quantity fill.price = some report.fee := by
      obtain ⟨profit, -, reported⟩ := Option.bind_eq_some_iff.1 reported
      obtain ⟨entryFee, -, reported⟩ := Option.bind_eq_some_iff.1 reported
      obtain ⟨fee, charged, reported⟩ := Option.bind_eq_some_iff.1 reported
      cases reported
      exact charged
    have holds : (d.afterOrder order market).HoldsLots := a.holds
    exact a.book (writable_afterExit writable' p after x fill report)
      (history_afterExit _ p after x fill report) own charged cash
      (accounted_afterExit a.accounted holds held reduced reported)
      (holdsLots_afterExit holds held reduced)

end Engine

end Execution

end TradingDesk
