import Mathlib.Logic.Relation
import TradingDesk.Proofs.Decimal.Value
import TradingDesk.Proofs.Execution.Gate
import TradingDesk.Proofs.Execution.Run
import TradingDesk.Proofs.Order.Confirmation

/-!
# Reported Volumes

Whatever the engine opens or books has the quantity that confirmation took from the broker's answer
to the order.  When the answer names a filled volume, that quantity is the volume as long as it is
positive.  A volume of zero, as of an order that is accepted but not filled yet, and a negative one
are passed over: the total of the fills stands in for it if that is positive, and the quantity that
was ordered if it is not.  So a broker that reports that nothing was filled is taken to have filled
the whole order.
-/

namespace TradingDesk

namespace Order

/-- What confirmation makes of a filled volume that a response names. -/
structure Response.TakesVolume (r : Response) (requested volume quantity : Decimal) : Prop where
  reported : Decimal.zero < volume → quantity = volume
  substituted : volume ≤ Decimal.zero → ∃ total, filledTotal? r.fills = some total ∧
    quantity = if Decimal.zero < total then total else requested
  agrees : quantity.value = volume.value ↔ Decimal.zero < volume ∨
    requested.value = volume.value ∧ ∃ total, filledTotal? r.fills = some total ∧
      total ≤ Decimal.zero

variable {r : Response} {symbol : String} {requested volume quantity : Decimal} {fill : Confirmed}

theorem fillQuantity?_of_positive (named : r.filledVolume = some volume)
    (positive : Decimal.zero < volume) : fillQuantity? r requested = some volume := by
  simp [fillQuantity?, named, Option.filter_some, Decimal.isPositive, positive]

theorem fillQuantity?_of_le (named : r.filledVolume = some volume)
    (low : volume ≤ Decimal.zero) : fillQuantity? r requested =
      (filledTotal? r.fills).bind fun total ↦
        some (if Decimal.zero < total then total else requested) := by
  simp [fillQuantity?, named, Option.filter_some, Decimal.isPositive, Decimal.not_lt.2 low]

theorem takesVolume_of_fillQuantity? (named : r.filledVolume = some volume)
    (filled : fillQuantity? r requested = some quantity) :
    r.TakesVolume requested volume quantity := by
  by_cases positive : Decimal.zero < volume
  · rw [fillQuantity?_of_positive named positive] at filled
    obtain rfl := Option.some.inj filled
    exact ⟨fun _ ↦ rfl, fun low ↦ absurd positive (Decimal.not_lt.2 low),
      iff_of_true rfl (.inl positive)⟩
  · have low := Decimal.not_lt.1 positive
    rw [fillQuantity?_of_le named low] at filled
    obtain ⟨total, added, filled⟩ := Option.bind_eq_some_iff.1 filled
    obtain rfl := Option.some.inj filled
    refine ⟨fun above ↦ absurd above positive, fun _ ↦ ⟨total, added, rfl⟩, ?_⟩
    by_cases some : Decimal.zero < total
    · rw [if_pos some]
      refine iff_of_false (fun same ↦ positive ?_) ?_
      · rw [Decimal.lt_iff, ← same]
        exact Decimal.lt_iff.1 some
      · rintro (above | ⟨-, total', added', none⟩)
        · exact positive above
        · obtain rfl := Option.some.inj (added.symm.trans added')
          exact Decimal.not_lt.2 none some
    · rw [if_neg some]
      constructor
      · exact fun same ↦ .inr ⟨same, total, added, Decimal.not_lt.1 some⟩
      · rintro (above | ⟨same, -⟩)
        · exact absurd above positive
        · exact same

end Order

namespace Execution

variable {σ : Type} {e : Engine σ} {d d' : Desk σ} {order : Order.Request} {q : Decimal}
  {trade : Trade} {next : Ledger → Except Ledger.Error Ledger}

/-! ## Trades that are booked -/

theorem trades_recordInto {l : Ledger} (keeps : ∀ l l', next l = .ok l' → l'.trades = l.trades) :
    (Desk.recordInto l trade next).1.trades = l.trades ∨
      (Desk.recordInto l trade next).1.trades = l.trades ++ [.booked trade] := by
  unfold Desk.recordInto
  split
  · exact .inl rfl
  · rename_i l₁ recorded
    have trades : l₁.trades = l.trades ++ [.booked trade] := by
      rw [Ledger.recordFill_eq_ok recorded]
    right
    split
    · exact trades
    · rename_i l₂ noted
      exact (keeps l₁ l₂ noted).trans trades

theorem mem_trades_recordInto {l : Ledger} {row : Ledger.TradeRow}
    (keeps : ∀ l l', next l = .ok l' → l'.trades = l.trades)
    (mem : row ∈ (Desk.recordInto l trade next).1.trades) :
    row ∈ l.trades ∨ row = .booked trade := by
  obtain same | added := trades_recordInto keeps
  · rw [same] at mem
    exact .inl mem
  · rwa [added, List.mem_append, List.mem_singleton] at mem

theorem mem_trades_bookTrade {α : Type} {value : α} {row : Ledger.TradeRow}
    (keeps : ∀ l l', next l = .ok l' → l'.trades = l.trades)
    (mem : row ∈ (d.bookTrade trade next value).desk.ledger.trades) :
    row ∈ d.ledger.trades ∨ row = .booked trade := by
  rw [Desk.bookTrade_desk] at mem
  exact mem_trades_recordInto keeps mem

namespace Engine

theorem trades_of_openPosition (p : Position) (l l' : Ledger)
    (noted : l.openPosition p = .ok l') : l'.trades = l.trades := by
  rw [Ledger.openPosition_eq_ok noted]

theorem trades_of_noteExit (p : Position) (price : Decimal) (l l' : Ledger)
    (noted : noteExit p price l = .ok l') : l'.trades = l.trades := by
  unfold noteExit at noted
  split at noted
  · cases Ledger.guarded_eq_ok noted
    rfl
  · cases Ledger.guarded_eq_ok noted
    rfl

/-- The trades of an entry fill are the earlier ones and one of its quantity. -/
theorem mem_trades_opened {entry : Entry} {fill : Order.Confirmed} {p : Position} {fee : Decimal}
    {t : Trade} (mem : .booked t ∈ (opened d entry fill p fee).desk.ledger.trades) :
    .booked t ∈ d.ledger.trades ∨ t.quantity = fill.quantity := by
  obtain old | own := mem_trades_bookTrade (trades_of_openPosition p) mem
  · exact .inl old
  · cases own
    exact .inr rfl

/-- The trades of an exit fill are the earlier ones and one of its quantity. -/
theorem mem_trades_settled {p after : Position} {x : Exit} {fill : Order.Confirmed}
    {report : ExitReport} {t : Trade}
    (mem : .booked t ∈ (settled d p after x fill report).desk.ledger.trades) :
    .booked t ∈ d.ledger.trades ∨ t.quantity = fill.quantity := by
  obtain old | own := mem_trades_bookTrade (trades_of_noteExit after fill.price) mem
  · exact .inl old
  · cases own
    exact .inr rfl

theorem position?_quantity {entry : Entry} {fill : Order.Confirmed} {now : Instant} {p : Position}
    (h : e.position? entry fill now = some p) : p.quantity = fill.quantity := by
  obtain ⟨levels, -, h⟩ := Option.bind_eq_some_iff.1 h
  cases h
  rfl

theorem report?_quantity {p : Position} {x : Exit} {fill : Order.Confirmed} {report : ExitReport}
    (h : e.report? p x fill = some report) : report.quantity = fill.quantity := by
  obtain ⟨profit, -, h⟩ := Option.bind_eq_some_iff.1 h
  obtain ⟨entryFee, -, h⟩ := Option.bind_eq_some_iff.1 h
  obtain ⟨fee, -, h⟩ := Option.bind_eq_some_iff.1 h
  cases h
  rfl

/-! ## What an operation takes into the records -/

/-- Quantities that an operation takes into the records for its order: of the position that an entry
opens, of the trades that an entry and an exit book, and of the report of an exit. -/
inductive Registers (e : Engine σ) (d : Desk σ) : Order.Request → Decimal → Prop where
  | opened {entry : Entry} {o : Outcome σ Position} {order : Order.Request} {p : Position}
    (entered : e.enter? d entry = some o) (ordered : entryOrder? entry = some order)
    (unheld : d.book.find? entry.user entry.symbol = none)
    (held : o.desk.book.find? entry.user entry.symbol = some p) : Registers e d order p.quantity
  | entered {entry : Entry} {o : Outcome σ Position} {order : Order.Request} {t : Trade}
    (entered : e.enter? d entry = some o) (ordered : entryOrder? entry = some order)
    (new : .booked t ∉ d.ledger.trades) (booked : .booked t ∈ o.desk.ledger.trades) :
    Registers e d order t.quantity
  | exited {x : Exit} {o : Outcome σ ExitReport} {order : Order.Request} {p : Position} {t : Trade}
    (exited : e.exit? d x = some o) (held : d.book.find? x.user x.symbol = some p)
    (ordered : exitOrder? p x = some order)
    (new : .booked t ∉ d.ledger.trades) (booked : .booked t ∈ o.desk.ledger.trades) :
    Registers e d order t.quantity
  | reported {x : Exit} {o : Outcome σ ExitReport} {order : Order.Request} {p : Position}
    {report : ExitReport} (exited : e.exit? d x = some o)
    (held : d.book.find? x.user x.symbol = some p) (ordered : exitOrder? p x = some order)
    (reported : o.result = .ok report) : Registers e d order report.quantity

/-- Whether a quantity is the one confirmed for an answer of the broker to an order. -/
def Confirms (e : Engine σ) (market : σ) (order : Order.Request) (answer : Order.Response)
    (q : Decimal) : Prop :=
  ∃ market' fill, e.broker.place market order = some (.ok answer, market') ∧
    Order.confirm? answer order.symbol order.quantity = some (.ok fill) ∧ fill.quantity = q

/-- An entry leaves book and ledger alone, or it opens a position of the quantity confirmed for the
answer to its order. -/
theorem enter?_confirms {entry : Entry} {o : Outcome σ Position}
    (h : e.enter? d entry = some o) :
    (o.desk.book = d.book ∧ o.desk.ledger = d.ledger ∧ ∃ orders, o.desk.sent = d.sent ++ orders) ∨
      ∃ order market answer fill p fee, entryOrder? entry = some order ∧
        e.Confirms d.market order answer fill.quantity ∧ p.quantity = fill.quantity ∧
        p.user = entry.user ∧ p.symbol = entry.symbol ∧
        o = opened (d.afterOrder order market) entry fill p fee := by
  cases enter?_step h with
  | barred => exact .inl ⟨rfl, rfl, [], (List.append_nil _).symm⟩
  | unfilled screened ordered answered =>
    obtain ⟨market, rfl⟩ := Desk.fill?_desk answered
    exact .inl ⟨rfl, rfl, _, rfl⟩
  | slipped screened ordered answered measured above unwound =>
    obtain ⟨market, rfl⟩ := Desk.fill?_desk answered
    obtain ⟨market', rfl⟩ := unwind?_desk unwound
    exact .inl ⟨rfl, rfl, _, List.append_assoc _ _ _⟩
  | filled screened ordered answered measured within formed charged =>
    obtain ⟨answer, market, placed, checked, rfl⟩ := Desk.fill?_confirmed answered
    obtain ⟨user, symbol, -⟩ := position?_key formed
    exact .inr ⟨_, market, answer, _, _, _, ordered, ⟨market, _, placed, checked, rfl⟩,
      position?_quantity formed, user, symbol, rfl⟩

/-- An exit leaves book and ledger alone and fails, or it books the quantity confirmed for the
answer to its order. -/
theorem exit?_confirms {x : Exit} {o : Outcome σ ExitReport} (h : e.exit? d x = some o) :
    (o.desk.book = d.book ∧ o.desk.ledger = d.ledger ∧
      (∃ orders, o.desk.sent = d.sent ++ orders) ∧ ∃ error, o.result = .error error) ∨
      ∃ p after order market answer fill report, d.book.find? x.user x.symbol = some p ∧
        exitOrder? p x = some order ∧ e.Confirms d.market order answer fill.quantity ∧
        afterExit? p x fill = some after ∧ report.quantity = fill.quantity ∧
        o = settled (d.afterOrder order market) p after x fill report := by
  cases exit?_step h with
  | invalid => exact .inl ⟨rfl, rfl, ⟨[], (List.append_nil _).symm⟩, _, rfl⟩
  | absent => exact .inl ⟨rfl, rfl, ⟨[], (List.append_nil _).symm⟩, _, rfl⟩
  | unfilled inside held ordered answered =>
    obtain ⟨market, rfl⟩ := Desk.fill?_desk answered
    exact .inl ⟨rfl, rfl, ⟨_, rfl⟩, _, rfl⟩
  | filled inside held ordered answered reduced reported =>
    obtain ⟨answer, market, placed, checked, rfl⟩ := Desk.fill?_confirmed answered
    exact .inr ⟨_, _, _, market, answer, _, _, held, ordered, ⟨market, _, placed, checked, rfl⟩,
      reduced, report?_quantity reported, rfl⟩

theorem find?_opened {d : Desk σ} {entry : Entry} {fill : Order.Confirmed} {p : Position}
    {fee : Decimal} (user : p.user = entry.user) (symbol : p.symbol = entry.symbol) :
    (opened d entry fill p fee).desk.book.find? entry.user entry.symbol = some p := by
  rw [opened, Desk.bookTrade_desk, ← user, ← symbol]
  exact Book.find?_insert_self d.book p

/-- What is taken into the records for an order is confirmed for the answer to it. -/
theorem Registers.confirms (taken : e.Registers d order q) :
    ∃ answer, e.Confirms d.market order answer q := by
  cases taken with
  | opened entered ordered unheld held =>
    obtain ⟨same, -, -⟩ | ⟨order', market, answer, fill, p, fee, ordered', confirms, quantity, user,
      symbol, rfl⟩ := enter?_confirms entered
    · rw [same, unheld] at held
      cases held
    · obtain rfl := Option.some.inj (ordered.symm.trans ordered')
      rw [find?_opened user symbol] at held
      obtain rfl := Option.some.inj held
      exact ⟨answer, quantity ▸ confirms⟩
  | entered entered ordered new booked =>
    obtain ⟨-, same, -⟩ | ⟨order', market, answer, fill, p, fee, ordered', confirms, -, -, -, rfl⟩ :=
      enter?_confirms entered
    · rw [same] at booked
      exact absurd booked new
    · obtain rfl := Option.some.inj (ordered.symm.trans ordered')
      obtain old | quantity := mem_trades_opened booked
      · exact absurd old new
      · exact ⟨answer, quantity ▸ confirms⟩
  | exited exited held ordered new booked =>
    obtain ⟨-, same, -⟩ | ⟨p, after, order', market, answer, fill, report, held', ordered',
      confirms, -, -, rfl⟩ := exit?_confirms exited
    · rw [same] at booked
      exact absurd booked new
    · obtain rfl := Option.some.inj (held.symm.trans held')
      obtain rfl := Option.some.inj (ordered.symm.trans ordered')
      obtain old | quantity := mem_trades_settled booked
      · exact absurd old new
      · exact ⟨answer, quantity ▸ confirms⟩
  | reported exited held ordered reported =>
    obtain ⟨-, -, -, error, failed⟩ | ⟨p, after, order', market, answer, fill, report, held',
      ordered', confirms, -, quantity, rfl⟩ := exit?_confirms exited
    · rw [failed] at reported
      cases reported
    · obtain rfl := Option.some.inj (held.symm.trans held')
      obtain rfl := Option.some.inj (ordered.symm.trans ordered')
      obtain ⟨_, _, -, -, rfl, -⟩ := Desk.bookTrade_ok reported
      exact ⟨answer, quantity ▸ confirms⟩

/-! ## Runs -/

/-- Whether a broker comes from one state to another by answering orders. -/
def Reaches (e : Engine σ) : σ → σ → Prop :=
  Relation.ReflTransGen fun market market' ↦
    ∃ order answer, e.broker.place market order = some (answer, market')

/-- Whether a quantity is confirmed for an answer to one of some orders, which the broker gives at
or after a state. -/
def Backs (e : Engine σ) (start : σ) (orders : List Order.Request) (q : Decimal) : Prop :=
  ∃ order ∈ orders, ∃ market answer, e.Reaches start market ∧ e.Confirms market order answer q

theorem Backs.mono {start start' : σ} {orders orders' : List Order.Request}
    (h : e.Backs start' orders q) (reach : e.Reaches start start') (sub : orders ⊆ orders') :
    e.Backs start orders' q := by
  obtain ⟨order, mem, market, answer, later, confirms⟩ := h
  exact ⟨order, sub mem, market, answer, reach.trans later, confirms⟩

/-- What a run that sends some orders adds to a desk.  Its trades and its positions have quantities
that were there before or that are confirmed for an answer to one of the orders, and without such
an answer the book and the ledger are what they were. -/
structure Adds (e : Engine σ) (d : Desk σ) (orders : List Order.Request) (d' : Desk σ) : Prop where
  sent : d'.sent = d.sent ++ orders
  reach : e.Reaches d.market d'.market
  records : d'.book = d.book ∧ d'.ledger = d.ledger ∨ ∃ q, e.Backs d.market orders q
  trades : ∀ t, .booked t ∈ d'.ledger.trades →
    .booked t ∈ d.ledger.trades ∨ e.Backs d.market orders t.quantity
  positions : ∀ p ∈ d'.book,
    (∃ q ∈ d.book, q.user = p.user ∧ q.symbol = p.symbol ∧ q.quantity = p.quantity) ∨
      e.Backs d.market orders p.quantity

theorem Adds.of_same {orders : List Order.Request} (book : d'.book = d.book)
    (ledger : d'.ledger = d.ledger) (sent : d'.sent = d.sent ++ orders)
    (reach : e.Reaches d.market d'.market) : e.Adds d orders d' :=
  ⟨sent, reach, .inl ⟨book, ledger⟩, fun _ mem ↦ .inl (ledger ▸ mem),
    fun p mem ↦ .inl ⟨p, book ▸ mem, rfl, rfl, rfl⟩⟩

theorem Adds.trans {d'' : Desk σ} {orders orders' : List Order.Request}
    (first : e.Adds d orders d') (second : e.Adds d' orders' d'') :
    e.Adds d (orders ++ orders') d'' := by
  have early {q : Decimal} (h : e.Backs d.market orders q) :
      e.Backs d.market (orders ++ orders') q :=
    h.mono .refl (List.subset_append_left _ _)
  have late {q : Decimal} (h : e.Backs d'.market orders' q) :
      e.Backs d.market (orders ++ orders') q :=
    h.mono first.reach (List.subset_append_right _ _)
  refine ⟨?_, first.reach.trans second.reach, ?_, fun t mem ↦ ?_, fun p mem ↦ ?_⟩
  · rw [second.sent, first.sent, List.append_assoc]
  · obtain ⟨book', ledger'⟩ | ⟨q, backed⟩ := second.records
    · obtain ⟨book, ledger⟩ | ⟨q, backed⟩ := first.records
      · exact .inl ⟨book'.trans book, ledger'.trans ledger⟩
      · exact .inr ⟨q, early backed⟩
    · exact .inr ⟨q, late backed⟩
  · obtain old | backed := second.trades t mem
    · exact (first.trades t old).imp id early
    · exact .inr (late backed)
  · obtain ⟨q, held, user, symbol, quantity⟩ | backed := second.positions p mem
    · obtain ⟨q', held', user', symbol', quantity'⟩ | backed := first.positions q held
      · exact .inl ⟨q', held', user'.trans user, symbol'.trans symbol, quantity'.trans quantity⟩
      · exact .inr (quantity ▸ early backed)
    · exact .inr (late backed)

/-- A volume that an answer reports is the quantity that is confirmed, and so the one of every
position that is opened and of every trade that is booked, exactly when it is positive or what
stands in for it is equal to it. -/
theorem takes_reported_volume_iff_positive (e : Engine σ) (d : Desk σ) :
    (∀ (r : Order.Response) (symbol : String) (requested volume : Decimal)
      (fill : Order.Confirmed), r.filledVolume = some volume →
      Order.confirm? r symbol requested = some (.ok fill) →
      r.TakesVolume requested volume fill.quantity) ∧
    ∀ (order : Order.Request) (q : Decimal), e.Registers d order q →
      ∃ answer, e.Confirms d.market order answer q ∧
        ∀ volume, answer.filledVolume = some volume →
          answer.TakesVolume order.quantity volume q := by
  have confirmed (r : Order.Response) (symbol : String) (requested volume : Decimal)
      (fill : Order.Confirmed) (named : r.filledVolume = some volume)
      (confirmed : Order.confirm? r symbol requested = some (.ok fill)) :
      r.TakesVolume requested volume fill.quantity :=
    Order.takesVolume_of_fillQuantity? named (Order.confirm?_eq_ok confirmed).2.2
  refine ⟨confirmed, fun order q taken ↦ ?_⟩
  obtain ⟨answer, confirms⟩ := taken.confirms
  refine ⟨answer, confirms, fun volume named ↦ ?_⟩
  obtain ⟨market, fill, -, checked, rfl⟩ := confirms
  exact confirmed answer order.symbol order.quantity volume fill named checked

end Engine

/-! ## An order that is accepted but not filled -/

/-- The answer of a broker that accepted an order at 100 and reports a filled volume. -/
def acceptedAnswer (volume : Decimal) : Order.Response :=
  { Order.Response.empty with
    status := some "open"
    orderId := some "accepted"
    filledVolume := some volume
    price := some (Decimal.const 100 0) }

/-- A desk whose broker accepts the first order and reports a filled volume of it. -/
def acceptingDesk (volume : Decimal) : Desk Broker.Script.State :=
  Desk.new [.ok (acceptedAnswer volume)] (KillSwitch.new none) Instant.epoch

/-- The order of the entry that the desk gets. -/
def acceptedOrder : Order.Request :=
  ⟨"BTC-USD", .buy, Decimal.one⟩

/-- After an order for one of which four tenths are reported, four tenths are confirmed and the
position has four tenths. -/
theorem takes_reported_volume_iff_positive_part :
    (acceptedAnswer (Decimal.const 4 1)).TakesVolume Decimal.one (Decimal.const 4 1)
      (Decimal.const 4 1) ∧
    ∃ o p, rehearsal.enter? (acceptingDesk (Decimal.const 4 1)) slippingEntry = some o ∧
      o.desk.book.find? "alice" "BTC-USD" = some p ∧ p.quantity = Decimal.const 4 1 := by
  have confirmed : Order.confirm? (acceptedAnswer (Decimal.const 4 1)) "BTC-USD" Decimal.one =
      some (.ok ⟨"accepted", "open", Decimal.const 100 0, Decimal.const 4 1⟩) := by
    decide +kernel
  obtain ⟨confirms, registers⟩ := Engine.takes_reported_volume_iff_positive rehearsal
    (acceptingDesk (Decimal.const 4 1))
  refine ⟨confirms _ "BTC-USD" _ _ _ rfl confirmed, ?_⟩
  have ran : (rehearsal.enter? (acceptingDesk (Decimal.const 4 1)) slippingEntry).any (fun o ↦
      (o.desk.book.find? "alice" "BTC-USD").isSome) = true := by
    decide +kernel
  obtain ⟨o, entered, held⟩ := (Option.any_eq_true _ _).1 ran
  obtain ⟨p, held⟩ := Option.isSome_iff_exists.1 held
  have ordered : Engine.entryOrder? slippingEntry = some acceptedOrder := by decide +kernel
  obtain ⟨answer, ⟨market, fill, placed, -⟩, takes⟩ :=
    registers acceptedOrder p.quantity (.opened entered ordered rfl held)
  cases placed
  exact ⟨o, p, entered, held, (takes _ rfl).reported (by decide +kernel)⟩

/-- An answer that reports that nothing was filled can be confirmed for the whole order, and an entry
then opens a position of that quantity. -/
theorem unfilled_order_can_open :
    (acceptedAnswer Decimal.zero).filledVolume = some Decimal.zero ∧
    Order.confirm? (acceptedAnswer Decimal.zero) "BTC-USD" Decimal.one =
      some (.ok ⟨"accepted", "open", Decimal.const 100 0, Decimal.one⟩) ∧
    ∃ o p, rehearsal.enter? (acceptingDesk Decimal.zero) slippingEntry = some o ∧
      o.desk.book.find? "alice" "BTC-USD" = some p ∧ p.quantity = Decimal.one := by
  refine ⟨rfl, by decide +kernel, ?_⟩
  have ran : (rehearsal.enter? (acceptingDesk Decimal.zero) slippingEntry).any (fun o ↦
      (o.desk.book.find? "alice" "BTC-USD").any (·.quantity = Decimal.one)) = true := by
    decide +kernel
  obtain ⟨o, entered, opened⟩ := (Option.any_eq_true _ _).1 ran
  obtain ⟨p, held, quantity⟩ := (Option.any_eq_true _ _).1 opened
  exact ⟨o, p, entered, held, of_decide_eq_true quantity⟩

end Execution

end TradingDesk
