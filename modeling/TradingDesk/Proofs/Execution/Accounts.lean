import Mathlib.Data.List.Permutation
import TradingDesk.Proofs.Execution.Play
import TradingDesk.Proofs.Execution.Results
import TradingDesk.Proofs.Ledger.Lots

/-!
# Broker and Ledger Account for the Same Money

The paper broker and the ledger keep their accounts apart.  The broker moves cash and holdings with
each fill, at its own price and with its own fee.  The ledger lists the fills as trades, and to each
exit the desk adds the result that its position gives.

As long as no amount is rounded and no entry is traded back, the two agree after every event of a
play: the cash is what the trades left of the initial balance, the holdings are what the trades
moved, and the equity is what the exits realized and what the lots would still bring.
-/

namespace TradingDesk.Execution

open Broker.Paper (FillsExactly)

variable {s : Broker.Paper.Settings} {settings : Settings} {d d' : Desk Broker.Paper.State}

/-! ## Orders to the paper broker -/

namespace Desk

variable {order : Order.Request}

/-- A confirmed order was filled as ordered, at the confirmed price. -/
theorem fill?_answered {Q : Decimal → Broker.Paper.State → Prop} {fill : Order.Confirmed}
    (answers : ∀ {answer market}, Broker.Paper.place? s d.market order = some (answer, market) →
      Broker.Paper.Answered d.market order Q answer market)
    (h : d.fill? (Broker.Paper.broker s) order = some (.done d' fill)) :
    d' = d.afterOrder order d'.market ∧ fill.quantity = order.quantity ∧
      Q fill.price d'.market := by
  obtain ⟨response, market, placed, checked, rfl⟩ := fill?_confirmed h
  cases answers placed with
  | refused unnamed =>
    have identified := (Order.confirm?_eq_ok checked).1
    obtain ⟨refusal, refused⟩ := Order.identify_of_unnamed (unnamed response rfl)
    rw [refused] at identified
    cases identified
  | filled ordered positive effect =>
    obtain ⟨reference, confirmed⟩ := Broker.Paper.confirm?_filled ordered positive
    rw [confirmed] at checked
    cases checked
    exact ⟨rfl, rfl, effect⟩

/-- An order that is not confirmed was not filled. -/
theorem fill?_unanswered {Q : Decimal → Broker.Paper.State → Prop} {error : Error}
    (answers : ∀ {answer market}, Broker.Paper.place? s d.market order = some (answer, market) →
      Broker.Paper.Answered d.market order Q answer market)
    (h : d.fill? (Broker.Paper.broker s) order = some (.failed d' error)) :
    d' = d.afterOrder order d.market := by
  generalize failed : Outcome.failed d' error = o at h
  cases fill?_step h with
  | unreachable placed =>
    cases failed
    cases answers placed with
    | refused => rfl
  | refused placed checked =>
    cases failed
    cases answers placed with
    | refused => rfl
    | filled ordered positive =>
      obtain ⟨reference, confirmed⟩ := Broker.Paper.confirm?_filled ordered positive
      rw [confirmed] at checked
      cases checked
  | confirmed => cases failed

/-- An order that is filled exactly and confirmed is booked at the confirmed price. -/
theorem fill?_booked {fill : Order.Confirmed} (least : 0 ≤ s.slippage.value)
    (most : s.slippage.value < 1) (sound : d.market.IsSound s)
    (exact : FillsExactly s d.market order)
    (h : d.fill? (Broker.Paper.broker s) order = some (.done d' fill)) :
    d' = d.afterOrder order d'.market ∧ fill.quantity = order.quantity ∧
      Broker.Paper.Booked d.market d'.market order fill.price ∧ d'.market.IsSound s :=
  fill?_answered (Broker.Paper.place?_answered least most sound exact) h

/-- An order that is filled exactly and not confirmed leaves the broker as it was. -/
theorem fill?_unbooked {error : Error} (least : 0 ≤ s.slippage.value)
    (most : s.slippage.value < 1) (sound : d.market.IsSound s)
    (exact : FillsExactly s d.market order)
    (h : d.fill? (Broker.Paper.broker s) order = some (.failed d' error)) :
    d' = d.afterOrder order d.market :=
  fill?_unanswered (Broker.Paper.place?_answered least most sound exact) h

end Desk

/-! ## Lots of open positions -/

section Lots

variable {σ : Type} {d : Desk σ} {entry : Entry} {p after : Position} {x : Engine.Exit}
  {fill : Order.Confirmed} {fee : Decimal} {report : ExitReport} {e : Engine σ}

/-- Whether a lot began with the entry that opened a position. -/
structure Opens (lot : Ledger.Lot) (p : Position) : Prop where
  side : lot.entry.side = p.side
  price : lot.entry.price = p.entryPrice
  quantity : lot.entry.quantity = p.quantity

/-- Whether the latest lot of each open position began with its entry. -/
def Desk.HoldsLots (d : Desk σ) : Prop :=
  ∀ user symbol p, d.book.find? user symbol = some p →
    ∃ lot, Ledger.latestLot? user symbol d.ledger.history = some lot ∧ Opens lot p

namespace Engine

/-- A position is that of the entry that formed it. -/
theorem opens_entryTrade {now : Instant} (formed : e.position? entry fill now = some p) :
    Opens ⟨entryTrade d entry fill p fee, []⟩ p := by
  obtain ⟨levels, -, formed⟩ := Option.bind_eq_some_iff.1 formed
  cases formed
  exact ⟨rfl, rfl, rfl⟩

theorem holdsLots_afterEntry (holds : d.HoldsLots)
    (opens : Opens ⟨entryTrade d entry fill p fee, []⟩ p) :
    (afterEntry d entry fill p fee).HoldsLots := by
  intro user symbol q held
  change (d.book.insert p).find? user symbol = some q at held
  rw [history_afterEntry]
  by_cases here : p.user = user ∧ p.symbol = symbol
  · obtain ⟨rfl, rfl⟩ := here
    rw [Book.find?_insert_self] at held
    cases held
    exact ⟨_, Ledger.latestLot?_entry_self (t := entryTrade d entry fill p fee) rfl _, opens⟩
  · rw [Book.find?_insert_of_ne here] at held
    rw [Ledger.latestLot?_entry_of_ne (t := entryTrade d entry fill p fee) rfl here]
    exact holds user symbol q held

theorem find?_beforeExit (held : d.book.find? x.user x.symbol = some p)
    (reduced : afterExit? p x fill = some after) :
    d.book.find? after.user after.symbol = some p := by
  obtain ⟨ofUser, inSymbol⟩ := Book.of_find?_eq_some held
  rw [afterExit?_eq reduced, ← held, ofUser, inSymbol]

theorem holdsLots_afterExit (holds : d.HoldsLots) (held : d.book.find? x.user x.symbol = some p)
    (reduced : afterExit? p x fill = some after) :
    (afterExit d p after x fill report).HoldsLots := by
  intro user symbol q held'
  change (bookAfter d.book after).find? user symbol = some q at held'
  rw [history_afterExit]
  by_cases here : after.user = user ∧ after.symbol = symbol
  · obtain ⟨rfl, rfl⟩ := here
    rw [find?_bookAfter] at held'
    obtain ⟨rfl, -⟩ := kept?_eq_some held'
    obtain ⟨lot, latest, opens⟩ := holds _ _ p (find?_beforeExit held reduced)
    have added := Ledger.latestLot?_exit_self (t := exitTrade d p after x fill report) rfl
      d.ledger.history
    refine ⟨lot.add (exitTrade d p after x fill report), added.trans ?_, ?_⟩
    · change (Ledger.latestLot? after.user after.symbol d.ledger.history).map _ = _
      rw [latest]
      rfl
    · rw [afterExit?_eq reduced]
      exact ⟨opens.side, opens.price, opens.quantity⟩
  · rw [find?_bookAfter_of_ne here] at held'
    rw [Ledger.latestLot?_exit_of_ne (t := exitTrade d p after x fill report) rfl here]
    exact holds user symbol q held'

/-- The trade of an exit closes a part of the latest lot of its position. -/
theorem accounted_afterExit (accounted : Ledger.Accounted d.ledger.history) (holds : d.HoldsLots)
    (held : d.book.find? x.user x.symbol = some p) (reduced : afterExit? p x fill = some after)
    (reported : e.report? after x fill = some report) :
    Ledger.Accounted (afterExit d p after x fill report).ledger.history := by
  rw [history_afterExit]
  obtain ⟨profit, gained, reported⟩ := Option.bind_eq_some_iff.1 reported
  obtain ⟨entryFee, -, reported⟩ := Option.bind_eq_some_iff.1 reported
  obtain ⟨fee, -, reported⟩ := Option.bind_eq_some_iff.1 reported
  cases reported
  obtain ⟨lot, latest, opens⟩ := holds _ _ p (find?_beforeExit held reduced)
  obtain ⟨-, here⟩ := Ledger.Lot.isAt_iff.1 (List.find?_some latest)
  refine accounted.exit latest ⟨rfl, here.symm, ?_, ?_⟩
  · rw [opens.side]
    rfl
  · rw [Position.profit?_eq, afterExit?_eq reduced] at gained
    rw [opens.side, opens.price]
    exact gained

end Engine

end Lots

/-! ## The realized result of the ledger -/

theorem Desk.Writable.readAllTrades {σ : Type} {d : Desk σ} (w : d.Writable) :
    ∃ trades, d.ledger.readTrades none (-1) = .ok trades ∧ trades.Perm d.ledger.history := by
  obtain ⟨trades, read, same⟩ := w.readTrades none
  have whole : d.ledger.history.filter (Ledger.matchesUser none ·.user) = d.ledger.history :=
    List.filter_eq_self.2 fun _ _ ↦ rfl
  exact ⟨trades, read, whole ▸ same⟩

/-- The result that the statistics of all users show is that of the exits. -/
theorem Desk.Writable.value_realizedProfit {σ : Type} {d : Desk σ} (w : d.Writable)
    {statistics : Ledger.Statistics} (exact : d.ledger.RealizesExactly)
    (h : d.ledger.statistics? none = some (.ok statistics)) :
    statistics.realizedProfit.value =
      ((d.ledger.history.filter (·.kind = .exit)).map (·.profit.value)).sum := by
  obtain ⟨trades, read, same⟩ := w.readAllTrades
  rw [Ledger.statistics?, read] at h
  obtain ⟨total, added, h⟩ := Option.bind_eq_some_iff.1 h
  cases h
  have summed := Ledger.Statistics.realizedProfit_of_foldlM added
  rw [Decimal.value_foldlM_add? (exact trades read) summed, Decimal.value_zero, zero_add,
    List.map_map]
  exact ((same.filter _).map _).sum_eq

/-! ## The accounts of a desk -/

/-- The accounts of a desk agree: the money and the holdings of the broker are what the trades of
the ledger say, the trades are accounted for, and so are the open positions. -/
structure Accounts (s : Broker.Paper.Settings) (d : Desk Broker.Paper.State) : Prop where
  writable : d.Writable
  sound : d.market.IsSound s
  funds : d.market.cash.value + d.market.feesPaid.value =
    s.initialBalance.value + (d.ledger.history.map Trade.cashFlow).sum
  worth : ∀ m, d.market.worth m =
    (d.ledger.history.map fun t ↦ t.signedQuantity * m t.symbol).sum
  accounted : Ledger.Accounted d.ledger.history
  holds : d.HoldsLots

namespace Accounts

theorem new (s : Broker.Paper.Settings) (killSwitch : KillSwitch) (clock : Instant) :
    Accounts s (Desk.new (Broker.Paper.State.new s) killSwitch clock) where
  writable := Desk.writable_new _ killSwitch clock
  sound := Broker.Paper.State.isSound_new s
  funds := congrArg (s.initialBalance.value + ·) Decimal.value_zero
  worth _ := rfl
  accounted := Ledger.Accounted.nil
  holds _ _ _ held := by cases held

theorem setPrice (a : Accounts s d) (symbol : String) {price : Decimal}
    (positive : 0 < price.value) :
    Accounts s { d with market := d.market.setPrice symbol price } where
  writable := ⟨a.writable.online, a.writable.named⟩
  sound := a.sound.setPrice symbol positive
  funds := a.funds
  worth := a.worth
  accounted := a.accounted
  holds := a.holds

theorem afterOrder (a : Accounts s d) (order : Order.Request) :
    Accounts s (d.afterOrder order d.market) where
  writable := a.writable.afterOrder order d.market
  sound := a.sound
  funds := a.funds
  worth := a.worth
  accounted := a.accounted
  holds := a.holds

/-- The accounts agree after a trade that books a fill of the broker. -/
theorem book (a : Accounts s d) {order : Order.Request} {price : Decimal} {t : Trade}
    (booked : Broker.Paper.Booked d.market d'.market order price) (sound : d'.market.IsSound s)
    (writable : d'.Writable) (history : d'.ledger.history = t :: d.ledger.history)
    (symbol : t.symbol = order.symbol) (side : t.side = order.side)
    (quantity : t.quantity = order.quantity) (priced : t.price = price)
    (accounted : Ledger.Accounted d'.ledger.history) (holds : d'.HoldsLots) : Accounts s d' where
  writable := writable
  sound := sound
  funds := by
    rw [booked.funds, a.funds, history, List.map_cons, List.sum_cons, Trade.cashFlow, side,
      quantity, priced]
    ring
  worth m := by
    rw [booked.worth, a.worth, history, List.map_cons, List.sum_cons, Trade.signedQuantity, side,
      quantity, symbol]
    ring
  accounted := accounted
  holds := holds

/-- What each symbol is held at is what its trades moved. -/
theorem holding (a : Accounts s d) (symbol : String) :
    (d.market.holding symbol).quantity.value =
      ((d.ledger.history.filter (·.symbol = symbol)).map Trade.signedQuantity).sum := by
  rw [← a.sound.worth_indicator, a.worth, ← sum_map_filter (p := (decide <| ·.symbol = symbol))]
  · apply congrArg List.sum
    apply List.map_congr_left
    intro t mem
    rw [if_pos (of_decide_eq_true (List.mem_filter.1 mem).2), mul_one]
  · intro t mem away
    rw [if_neg (of_decide_eq_false away), mul_zero]

/-- The equity is what the exits realized and what the lots would bring at the last prices. -/
theorem equity (a : Accounts s d) {equity : Decimal} (marks : d.market.MarksExactly)
    (results : ∀ lot ∈ Ledger.lots d.ledger.history, lot.IsExact)
    (h : d.market.equity? = some equity) :
    equity.value = s.initialBalance.value - d.market.feesPaid.value +
      (d.ledger.history.map (·.profit.value)).sum +
      ((Ledger.lots d.ledger.history).map fun lot ↦
        lot.unrealized (d.market.lastPrice lot.entry.symbol)).sum := by
  have marked := a.accounted.marked results d.market.lastPrice
  rw [List.sum_map_add, ← a.worth] at marked
  have funds := a.funds
  rw [a.sound.value_equity? marks h]
  linarith

end Accounts

namespace Engine

/-- The accounts agree after an entry that is filled exactly and not traded back. -/
theorem enter?_accounts {entry : Entry} {o : Outcome Broker.Paper.State Position}
    (least : 0 ≤ s.slippage.value) (most : s.slippage.value < 1) (a : Accounts s d)
    (h : (onPaper settings s).enter? d entry = some o) (kept : ¬o.IsImmediateLoss)
    (met : d.OrdersMeet (Broker.Paper.broker s) (FillsExactly s) o.desk) :
    Accounts s o.desk := by
  cases enter?_step h with
  | barred => exact a
  | unfilled screened ordered answered =>
    have exact := (Desk.ordersMeet_fill? answered rfl).1 met
    rw [Desk.fill?_unbooked least most a.sound exact answered]
    exact a.afterOrder _
  | slipped => exact absurd ⟨_, _, _, _, rfl⟩ kept
  | @filled order d' fill _ p fee screened ordered answered measured within formed charged =>
    obtain ⟨market, rfl⟩ := Desk.fill?_desk answered
    have writable := a.writable.afterOrder order market
    rw [opened_of_writable writable] at met ⊢
    have exact := (Desk.ordersMeet_fill? answered rfl).1 met
    obtain ⟨-, quantity, booked, sound⟩ := Desk.fill?_booked least most a.sound exact answered
    obtain ⟨-, symbol, price⟩ := position?_key formed
    obtain ⟨target, sided⟩ := entryOrder?_key ordered
    have accounted : Ledger.Accounted
        (afterEntry (d.afterOrder order market) entry fill p fee).ledger.history := by
      rw [history_afterEntry]
      exact a.accounted.entry rfl rfl
    have holds : (d.afterOrder order market).HoldsLots := a.holds
    exact a.book booked sound (writable_afterEntry writable entry fill p fee)
      (history_afterEntry _ entry fill p fee) (symbol.trans target.symm) sided.symm quantity rfl
      accounted (holdsLots_afterEntry holds (opens_entryTrade formed))

/-- The accounts agree after an exit that is filled exactly. -/
theorem exit?_accounts {x : Exit} {o : Outcome Broker.Paper.State ExitReport}
    (least : 0 ≤ s.slippage.value) (most : s.slippage.value < 1) (a : Accounts s d)
    (h : (onPaper settings s).exit? d x = some o)
    (met : d.OrdersMeet (Broker.Paper.broker s) (FillsExactly s) o.desk) :
    Accounts s o.desk := by
  cases exit?_step h with
  | invalid => exact a
  | absent => exact a
  | unfilled inside held ordered answered =>
    have exact := (Desk.ordersMeet_fill? answered rfl).1 met
    rw [Desk.fill?_unbooked least most a.sound exact answered]
    exact a.afterOrder _
  | @filled p after order d' fill report inside held ordered answered reduced reported =>
    obtain ⟨market, rfl⟩ := Desk.fill?_desk answered
    have writable := a.writable.afterOrder order market
    rw [settled_of_writable writable] at met ⊢
    have exact := (Desk.ordersMeet_fill? answered rfl).1 met
    obtain ⟨-, quantity, booked, sound⟩ := Desk.fill?_booked least most a.sound exact answered
    obtain ⟨target, sided⟩ := exitOrder?_key ordered
    obtain ⟨-, inSymbol⟩ := Book.of_find?_eq_some held
    have symbol : after.symbol = order.symbol := by
      rw [target, ← inSymbol, afterExit?_eq reduced]
    have holds : (d.afterOrder order market).HoldsLots := a.holds
    exact a.book booked sound (writable_afterExit writable p after x fill report)
      (history_afterExit _ p after x fill report) symbol sided.symm quantity rfl
      (accounted_afterExit a.accounted holds held reduced reported)
      (holdsLots_afterExit holds held reduced)

/-! ## Plays -/

/-- Whether an event keeps to exact amounts: a new price is positive, and a call is no entry that is
traded back and sends only orders that are filled exactly. -/
def KeepsExact (settings : Settings) (s : Broker.Paper.Settings) (d : Desk Broker.Paper.State) :
    Event → Prop
  | .quote _ price => 0 < price.value
  | .call call =>
    ¬(onPaper settings s).TradesBack d call ∧
      ∀ d' ∈ (onPaper settings s).perform? d call,
        d.OrdersMeet (Broker.Paper.broker s) (FillsExactly s) d'

instance (settings : Settings) (s : Broker.Paper.Settings) (d : Desk Broker.Paper.State) :
    (event : Event) → Decidable (KeepsExact settings s d event)
  | .quote _ price => inferInstanceAs (Decidable (0 < price.value))
  | .call _ => inferInstanceAs (Decidable (_ ∧ _))

/-- The accounts agree after a new price, and after every call that keeps to exact amounts. -/
theorem react?_accounts {event : Event} (least : 0 ≤ s.slippage.value)
    (most : s.slippage.value < 1) (a : Accounts s d) (exact : KeepsExact settings s d event)
    (h : (onPaper settings s).react? d event = some d') : Accounts s d' := by
  cases event with
  | quote symbol price =>
    cases h
    exact a.setPrice symbol exact
  | call call =>
    obtain ⟨kept, met⟩ := exact
    have met := met d' h
    rcases perform?_cases h with ⟨entry, o, rfl, entered, rfl⟩ | ⟨user, symbol, tried, -, attempts⟩
    · exact enter?_accounts least most a entered (fun lost ↦ kept ⟨o, entered, lost⟩) met
    · exact attempts.preserves_of_ordersMeet (fun a h met ↦ exit?_accounts least most a h met) a met

theorem play?_accounts {killSwitch : KillSwitch} {clock : Instant} {events : List Event}
    (least : 0 ≤ s.slippage.value) (most : s.slippage.value < 1)
    (exact : (onPaper settings s).Throughout (KeepsExact settings s)
      (Desk.new (Broker.Paper.State.new s) killSwitch clock) events)
    (played : (onPaper settings s).play?
      (Desk.new (Broker.Paper.State.new s) killSwitch clock) events = some d) :
    Accounts s d :=
  play?_preserves (fun a exact h ↦ react?_accounts least most a exact h)
    (Accounts.new s killSwitch clock) exact played

/-- A play on a fresh desk keeps the broker and the ledger in agreement, as long as no entry is
traded back and no amount is rounded: the cash is what the trades left of the initial balance after
fees, every symbol is held at what its trades moved, and the equity is the initial balance less the
fees, with what the exits realized and what is left of each entry would bring at the last price.
What the exits realized is the result that the statistics of the ledger show.  Each trade belongs to
one lot, whose exits have the results that their prices give, and the latest lot of an open position
began with its entry. -/
theorem broker_and_ledger_agree {killSwitch : KillSwitch} {clock : Instant} {events : List Event}
    (least : 0 ≤ s.slippage.value) (most : s.slippage.value < 1)
    (exact : (onPaper settings s).Throughout (KeepsExact settings s)
      (Desk.new (Broker.Paper.State.new s) killSwitch clock) events)
    (played : (onPaper settings s).play?
      (Desk.new (Broker.Paper.State.new s) killSwitch clock) events = some d) :
    d.market.cash.value = s.initialBalance.value - d.market.feesPaid.value +
        (d.ledger.history.map Trade.cashFlow).sum ∧
      (∀ symbol, (d.market.holding symbol).quantity.value =
        ((d.ledger.history.filter (·.symbol = symbol)).map Trade.signedQuantity).sum) ∧
      (∀ equity, d.market.equity? = some equity → d.market.MarksExactly →
        (∀ lot ∈ Ledger.lots d.ledger.history, lot.IsExact) →
        equity.value = s.initialBalance.value - d.market.feesPaid.value +
          (d.ledger.history.map (·.profit.value)).sum +
          ((Ledger.lots d.ledger.history).map fun lot ↦
            lot.unrealized (d.market.lastPrice lot.entry.symbol)).sum) ∧
      (∀ statistics, d.ledger.statistics? none = some (.ok statistics) →
        d.ledger.RealizesExactly →
        statistics.realizedProfit.value = (d.ledger.history.map (·.profit.value)).sum) ∧
      Ledger.Accounted d.ledger.history ∧ d.HoldsLots := by
  have a := play?_accounts least most exact played
  refine ⟨?_, a.holding, ?_, ?_, a.accounted, a.holds⟩
  · have funds := a.funds
    linarith
  · intro equity h marks results
    exact a.equity marks results h
  · intro statistics h sums
    rw [← a.accounted.sum_profit]
    exact a.writable.value_realizedProfit sums h

end Engine

/-! ## A long position half sold and a short one -/

/-- One user buys for 1000 at 100 and sells half at 120, where another sells short for 1200. -/
def tradingDay : List Event :=
  [.quote "BTC-USD" (Decimal.const 100 0),
    .call (.enter ⟨"alice", "BTC-USD", .buy, Decimal.const 1000 0, Decimal.const 100 0⟩),
    .quote "BTC-USD" (Decimal.const 120 0),
    .call (.exit "alice" "BTC-USD" (Decimal.const 5 1) "half"),
    .call (.enter ⟨"bob", "BTC-USD", .sell, Decimal.const 1200 0, Decimal.const 120 0⟩)]

/-- The desk at the start of a trading day. -/
def morningDesk : Desk Broker.Paper.State :=
  Desk.new (Broker.Paper.State.new Broker.Paper.Settings.standard) (KillSwitch.new none)
    Instant.epoch

theorem broker_and_ledger_agree_halfSold :
    ∃ d equity statistics,
      (Engine.onPaper Settings.standard Broker.Paper.Settings.standard).play? morningDesk
        tradingDay = some d ∧ d.market.equity? = some equity ∧
      (d.market.holding "BTC-USD").quantity.value = -5 ∧
      equity.value = Broker.Paper.Settings.standard.initialBalance.value -
        d.market.feesPaid.value + (d.ledger.history.map (·.profit.value)).sum +
        ((Ledger.lots d.ledger.history).map fun lot ↦
          lot.unrealized (d.market.lastPrice lot.entry.symbol)).sum ∧
      d.ledger.statistics? none = some (.ok statistics) ∧
      statistics.realizedProfit.value = 1989 / 20 := by
  have ran : ((Engine.onPaper Settings.standard Broker.Paper.Settings.standard).play? morningDesk
      tradingDay).any (fun d ↦ decide (d.market.equity?.isSome ∧ d.market.MarksExactly ∧
        (∀ lot ∈ Ledger.lots d.ledger.history, lot.IsExact) ∧
        (d.market.holding "BTC-USD").quantity.value = -5 ∧
        (∀ trades ∈ d.ledger.history.permutations',
          Decimal.SumsExactly Decimal.zero ((trades.filter (·.kind = .exit)).map (·.profit)) ∧
          (trades.foldlM Ledger.Statistics.add?
            { Ledger.Statistics.zero with
              totalTrades := trades.length
              openPositions := (d.ledger.openRows none).length }).isSome) ∧
        (d.ledger.history.map (·.profit.value)).sum = 1989 / 20)) = true := by
    decide +kernel
  have slips : 0 ≤ Broker.Paper.Settings.standard.slippage.value ∧
      Broker.Paper.Settings.standard.slippage.value < 1 := by
    decide +kernel
  have exact : (Engine.onPaper Settings.standard Broker.Paper.Settings.standard).Throughout
      (Engine.KeepsExact Settings.standard Broker.Paper.Settings.standard) morningDesk
        tradingDay := by
    decide +kernel
  obtain ⟨d, played, facts⟩ := (Option.any_eq_true _ _).1 ran
  obtain ⟨valued, marks, results, held, orders, gained⟩ := of_decide_eq_true facts
  obtain ⟨equity, h⟩ := Option.isSome_iff_exists.1 valued
  obtain ⟨-, -, marked, realized, -⟩ :=
    Engine.broker_and_ledger_agree slips.1 slips.2 exact played
  -- The order in which the trades are read does not matter here.
  obtain ⟨trades, read, same⟩ :=
    (Engine.play?_accounts slips.1 slips.2 exact played).writable.readAllTrades
  obtain ⟨sums, counted⟩ := orders trades (List.mem_permutations'.2 same)
  obtain ⟨statistics, counted⟩ := Option.isSome_iff_exists.1 counted
  have shown : d.ledger.statistics? none = some (.ok statistics) := by
    rw [Ledger.statistics?, read]
    exact Option.bind_eq_some_iff.2 ⟨statistics, counted, rfl⟩
  have exits : d.ledger.RealizesExactly := by
    intro others again
    cases read.symm.trans again
    exact sums
  exact ⟨d, equity, statistics, played, h, held, marked equity h marks results, shown,
    (realized statistics shown exits).trans gained⟩

end TradingDesk.Execution
