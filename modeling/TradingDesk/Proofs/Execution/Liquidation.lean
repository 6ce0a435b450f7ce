import TradingDesk.Proofs.Broker.Fills
import TradingDesk.Proofs.Execution.Booking
import TradingDesk.Proofs.Execution.Gate
import TradingDesk.Proofs.Execution.Sale

/-!
# Liquidation

A position that an entry opened is sold off by exits: by single ones, forced ones, the ladder, or a
check of stop and target, in any order and with any fractions and prices.  All their orders are on
the opposite side.  When the broker fills orders as they are, the quantities that it confirms form a
course of sales off the position.

So the quantities sold stay within the quantity at entry exactly when the surpluses of the sales
stay within what the remaining fraction accounts for, and each surplus is at most one in the eighth
fraction digit.  The bound is met: two exits of a half can sell more than was bought.
-/

namespace TradingDesk.Execution

variable {σ : Type}

namespace Engine

variable {e : Engine σ} {d d' : Desk σ} {user symbol : String} {p : Position}

/-! ## Fills of sent orders -/

theorem fills?_of_failed {broker : Broker σ} {order : Order.Request} {error : Error}
    (h : d.fill? broker order = some (.failed d' error)) (rest : List Order.Request) :
    broker.fills? d.market (order :: rest) = broker.fills? d'.market rest := by
  generalize failed : Outcome.failed d' error = o at h
  cases Desk.fill?_step h with
  | unreachable placed =>
    cases failed
    simp [Broker.fills?, placed, Desk.afterOrder]
  | refused placed checked =>
    cases failed
    simp [Broker.fills?, placed, checked, Desk.afterOrder]
  | confirmed => cases failed

theorem fills?_of_done {broker : Broker σ} {order : Order.Request} {fill : Order.Confirmed}
    (h : d.fill? broker order = some (.done d' fill)) (rest : List Order.Request) :
    broker.fills? d.market (order :: rest) =
      (broker.fills? d'.market rest).map fun (fills, market) ↦ (fill :: fills, market) := by
  obtain ⟨response, market, placed, checked, rfl⟩ := Desk.fill?_confirmed h
  simp [Broker.fills?, placed, checked, Desk.afterOrder]

/-! ## From exits to sales -/

/-- What the exits between two desks sold off a position: their orders, what the broker confirmed of
them, and the sales that led to the last position. -/
structure SoldOff (e : Engine σ) (d d' : Desk σ) (user symbol : String) (p last : Position)
    (orders : List Order.Request) (fills : List Order.Confirmed) (sales : List Sale) : Prop where
  sent : d'.sent = d.sent ++ orders
  opposite : ∀ order ∈ orders, order.symbol = symbol ∧ order.side = p.side.opposite
  filled : e.broker.fills? d.market orders = some (fills, d'.market)
  course : Course p sales last
  sold : fills.map (·.quantity) = sales.map (·.quantity)
  held : d'.book.find? user symbol = kept? last

/-- An order that is not filled sells nothing off. -/
theorem SoldOff.unfilled {x : Exit} {order : Order.Request} {d₁ : Desk σ} {error : Error}
    {last : Position} {orders : List Order.Request} {fills : List Order.Confirmed}
    {sales : List Sale} (ordered : exitOrder? p x = some order)
    (answered : d.fill? e.broker order = some (.failed d₁ error))
    (s : SoldOff e d₁ d' user x.symbol p last orders fills sales) :
    SoldOff e d d' user x.symbol p last (order :: orders) fills sales := by
  obtain ⟨market, rfl⟩ := Desk.fill?_desk answered
  refine ⟨?_, ?_, ?_, s.course, s.sold, s.held⟩
  · rw [s.sent]
    simp [Desk.afterOrder]
  · exact List.forall_mem_cons.2 ⟨exitOrder?_key ordered, s.opposite⟩
  · rw [fills?_of_failed answered]
    exact s.filled

/-- A filled exit is one more sale in front of those that follow. -/
theorem SoldOff.settled {x : Exit} {order : Order.Request} {d₁ : Desk σ} {after last : Position}
    {fill : Order.Confirmed} {report : ExitReport} {orders : List Order.Request}
    {fills : List Order.Confirmed} {sales : List Sale} (exact : e.broker.FillsOrders)
    (inside : IsFraction x.fraction) (opened : p.isClosed = false)
    (ordered : exitOrder? p x = some order)
    (answered : d.fill? e.broker order = some (.done d₁ fill))
    (reduced : afterExit? p x fill = some after)
    (s : SoldOff e (Engine.settled d₁ p after x fill report).desk d' user x.symbol after last orders
      fills sales) :
    ∃ sale, SoldOff e d d' user x.symbol p last (order :: orders) (fill :: fills)
      (sale :: sales) := by
  obtain ⟨response, market, placed, checked, rfl⟩ := Desk.fill?_confirmed answered
  obtain ⟨ledger, desk⟩ := settled_desk (d.afterOrder order market) p after x fill report
  obtain ⟨filled, divided, -⟩ := Option.bind_eq_some_iff.1 reduced
  obtain ⟨-, -, side⟩ := afterExit?_key reduced
  rw [desk] at s
  refine ⟨⟨p, x.fraction, fill.quantity, p.removable filled⟩, ?_, ?_, ?_, ?_, ?_, s.held⟩
  · rw [s.sent]
    simp [Desk.advance, Desk.afterOrder]
  · refine List.forall_mem_cons.2 ⟨exitOrder?_key ordered, ?_⟩
    rw [← side]
    exact s.opposite
  · have later : e.broker.fills? market orders = some (fills, d'.market) := s.filled
    rw [fills?_of_done answered]
    change (e.broker.fills? market orders).map _ = _
    rw [later]
    rfl
  · exact .sale inside opened ordered (exact placed checked) divided reduced s.course
  · rw [List.map_cons, List.map_cons, s.sold]

theorem Attempts.soldOff {tried : List (Outcome σ ExitReport)} (exact : e.broker.FillsOrders)
    (h : Attempts e user symbol d tried d') (held : d.book.find? user symbol = kept? p) :
    ∃ last orders fills sales, SoldOff e d d' user symbol p last orders fills sales := by
  induction h generalizing p with
  | none d =>
    exact ⟨p, [], [], [], by simp, by simp, rfl, .idle p, rfl, held⟩
  | @next d d' x o rest ofUser inSymbol tried more ih =>
    subst ofUser inSymbol
    cases exit?_step tried with
    | invalid => exact ih held
    | absent => exact ih held
    | @unfilled q order d₁ error inside found ordered answered =>
      obtain ⟨rfl, opened⟩ := kept?_eq_some (held.symm.trans found)
      have held' : d₁.book.find? x.user x.symbol = kept? p := by
        obtain ⟨market, rfl⟩ := Desk.fill?_desk answered
        exact held
      obtain ⟨last, orders, fills, sales, s⟩ := ih held'
      exact ⟨last, order :: orders, fills, sales, s.unfilled ordered answered⟩
    | @filled q after order d₁ fill report inside found ordered answered reduced reported =>
      obtain ⟨rfl, opened⟩ := kept?_eq_some (held.symm.trans found)
      have held' : (Engine.settled d₁ p after x fill report).desk.book.find? x.user x.symbol =
          kept? after := by
        obtain ⟨market, rfl⟩ := Desk.fill?_desk answered
        obtain ⟨ledger, desk⟩ := settled_desk (d.afterOrder order market) p after x fill report
        obtain ⟨user, symbol, -⟩ := afterExit?_key reduced
        obtain ⟨ofUser, inSymbol⟩ := Book.of_find?_eq_some found
        rw [desk, ← ofUser, ← inSymbol, ← user, ← symbol]
        exact find?_bookAfter d.book after
      obtain ⟨last, orders, fills, sales, s⟩ := ih held'
      obtain ⟨sale, s'⟩ := s.settled exact inside opened ordered answered reduced
      exact ⟨last, order :: orders, fill :: fills, sale :: sales, s'⟩

/-! ## The position that an entry opened -/

theorem entryOrder?_nonneg {entry : Entry} {order : Order.Request} (passed : ¬e.Bars d entry)
    (h : entryOrder? entry = some order) : 0 ≤ order.quantity.value := by
  obtain ⟨quantity, divided, h⟩ := Option.bind_eq_some_iff.1 h
  cases h
  have size : 0 ≤ entry.size.value := by
    have positive := Decimal.not_le.1 fun low ↦ passed (.inr (.inr (.inr (.inl low))))
    simpa using (Decimal.lt_iff.1 positive).le
  have price : 0 ≤ entry.price.value := by
    have positive := Decimal.not_le.1 fun low ↦ passed (.inr (.inr (.inl low)))
    simpa using (Decimal.lt_iff.1 positive).le
  exact Decimal.round_nonneg (Decimal.div?_nonneg size price divided) 8

/-- A position that an entry put into the book is whole, on the side of the entry, and of the
quantity that was ordered when the broker fills orders as they are. -/
theorem enter?_opened {entry : Entry} {o : Outcome σ Position} (exact : e.broker.FillsOrders)
    (unheld : d.book.find? entry.user entry.symbol = none) (entered : e.enter? d entry = some o)
    (opened : o.desk.book.find? entry.user entry.symbol = some p) :
    p.side = entry.side ∧ p.remaining = Decimal.one ∧ 0 ≤ p.quantity.value := by
  have unopened (same : o.desk.book = d.book) : False := by
    rw [same, unheld] at opened
    cases opened
  cases enter?_step entered with
  | barred => exact (unopened rfl).elim
  | unfilled screened ordered answered =>
    obtain ⟨market, rfl⟩ := Desk.fill?_desk answered
    exact (unopened rfl).elim
  | slipped screened ordered answered measured above unwound =>
    obtain ⟨market, rfl⟩ := Desk.fill?_desk answered
    obtain ⟨market', rfl⟩ := unwind?_desk unwound
    exact (unopened rfl).elim
  | @filled order d₁ fill slippage q fee screened ordered answered measured within formed charged =>
    obtain ⟨response, market, placed, checked, rfl⟩ := Desk.fill?_confirmed answered
    obtain ⟨user, symbol, -⟩ := position?_key formed
    have book : (Engine.opened (d.afterOrder order market) entry fill q fee).desk.book =
        d.book.insert q := by
      rw [Engine.opened, Desk.bookTrade_desk]
      rfl
    rw [book, ← user, ← symbol, Book.find?_insert_self] at opened
    obtain rfl := Option.some.inj opened
    obtain ⟨levels, -, formed⟩ := Option.bind_eq_some_iff.1 formed
    cases formed
    refine ⟨rfl, rfl, ?_⟩
    change 0 ≤ fill.quantity.value
    rw [exact placed checked]
    exact entryOrder?_nonneg (screen_eq_ok_iff.1 screened) ordered

/-! ## The law of liquidation -/

/-- The quantity that a broker confirmed altogether. -/
def total (fills : List Order.Confirmed) : ℚ :=
  (fills.map fun fill ↦ fill.quantity.value).sum

theorem total_eq (fills : List Order.Confirmed) :
    total fills = ((fills.map (·.quantity)).map Decimal.value).sum := by
  rw [total, List.map_map]
  rfl

/-- Whether orders only reduce a position: they are all on the opposite side, and no more than its
quantity at entry was sold. -/
def StaysWithin (p : Position) (orders : List Order.Request) (fills : List Order.Confirmed) :
    Prop :=
  (∀ order ∈ orders, order.symbol = p.symbol ∧ order.side = p.side.opposite) ∧
    total fills ≤ p.quantity.value

/-- Whether the surpluses of sales stay within what the remaining fraction accounts for. -/
def SurplusCovered (p last : Position) (sales : List Sale) : Prop :=
  (sales.map Sale.surplus).sum ≤ p.quantity.value * last.remaining.value

/-- Whatever exits a position goes through, their orders stay within it exactly when the surpluses
of the sales are covered, and no sale has a surplus of more than one in the eighth fraction
digit. -/
theorem staysWithin_iff_surplusCovered {entry : Entry} {o : Outcome σ Position} {calls : List Call}
    (exact : e.broker.FillsOrders) (unheld : d.book.find? entry.user entry.symbol = none)
    (entered : e.enter? d entry = some o)
    (opened : o.desk.book.find? entry.user entry.symbol = some p)
    (exits : ∀ call ∈ calls, call.Exits entry.user entry.symbol)
    (ran : e.run? o.desk calls = some d') :
    ∃ last orders fills sales,
      SoldOff e o.desk d' entry.user entry.symbol p last orders fills sales ∧
      (∀ order ∈ orders, order.symbol = entry.symbol ∧ order.side = entry.side.opposite) ∧
      (StaysWithin p orders fills ↔ SurplusCovered p last sales) ∧
      (p.quantity.value ≤ 10 ^ 18 → ∀ s ∈ sales, s.surplus ≤ 1 / 10 ^ 8) := by
  obtain ⟨side, whole, nonneg⟩ := enter?_opened exact unheld entered opened
  have share : HasShare p := by
    rw [HasShare, whole, Decimal.value_one]
    norm_num
  have kept : kept? p = some p := by
    have notClosed : p.isClosed = false := by
      rw [Position.isClosed, whole]
      decide
    rw [kept?, notClosed]
    rfl
  obtain ⟨tried, attempts⟩ := run?_attempts exits ran
  obtain ⟨last, orders, fills, sales, sold⟩ := attempts.soldOff exact (opened.trans kept.symm)
  have inSymbol := (Book.of_find?_eq_some opened).2
  have quantity : total fills = (sales.map fun s ↦ s.quantity.value).sum := by
    rw [total_eq, sold.sold, List.map_map]
    rfl
  refine ⟨last, orders, fills, sales, sold, ?_, ?_, sold.course.surplus_le share nonneg⟩
  · rw [← side]
    exact sold.opposite
  · rw [StaysWithin, inSymbol, quantity, SurplusCovered, ← sold.course.sold_le_iff whole]
    exact and_iff_right sold.opposite

end Engine

/-! ## Two halves of an odd quantity -/

/-- An engine over a paper broker that takes no fees and books none. -/
def paperEngine : Engine Broker.Paper.State :=
  ⟨{ Settings.standard with feeRate := Decimal.zero }, Broker.Paper.broker .free⟩

/-- A desk whose paper broker quotes 100. -/
def paperDesk : Desk Broker.Paper.State :=
  Desk.new ((Broker.Paper.State.new .free).setPrice "BTC-USD" (Decimal.const 100 0))
    (KillSwitch.new none) Instant.epoch

/-- An entry of 100.000003 at a price of 100, which buys 1.00000003. -/
def oddEntry : Entry :=
  ⟨"alice", "BTC-USD", .buy, Decimal.const 100000003 6, Decimal.const 100 0⟩

/-- Two exits of a half. -/
def twoHalves : List Call :=
  [.exit "alice" "BTC-USD" (Decimal.const 5 1) "manual",
    .exit "alice" "BTC-USD" (Decimal.const 5 1) "manual"]

/-- The order of a half, which is rounded up. -/
def halfOrder : Order.Request :=
  ⟨"BTC-USD", .sell, Decimal.const 50000002 8⟩

/-- Two halves of 1.00000003 are sold as 1.00000004. -/
theorem twoHalves_run : ∃ o p d' fills market,
    paperEngine.enter? paperDesk oddEntry = some o ∧
      o.desk.book.find? "alice" "BTC-USD" = some p ∧ p.quantity = Decimal.const 100000003 8 ∧
      paperEngine.run? o.desk twoHalves = some d' ∧
      d'.sent = o.desk.sent ++ [halfOrder, halfOrder] ∧
      paperEngine.broker.fills? o.desk.market [halfOrder, halfOrder] = some (fills, market) ∧
      fills.map (·.quantity) = [Decimal.const 50000002 8, Decimal.const 50000002 8] := by
  have ran : ((paperEngine.enter? paperDesk oddEntry).any fun o ↦
      (o.desk.book.find? "alice" "BTC-USD").any fun p ↦
        decide (p.quantity = Decimal.const 100000003 8) &&
          (paperEngine.run? o.desk twoHalves).any fun d' ↦
            decide (d'.sent = o.desk.sent ++ [halfOrder, halfOrder]) &&
              (paperEngine.broker.fills? o.desk.market [halfOrder, halfOrder]).any fun answer ↦
                decide (answer.1.map (·.quantity) =
                  [Decimal.const 50000002 8, Decimal.const 50000002 8])) = true := by
    decide +kernel
  obtain ⟨o, entered, ran⟩ := (Option.any_eq_true _ _).1 ran
  obtain ⟨p, opened, ran⟩ := (Option.any_eq_true _ _).1 ran
  obtain ⟨quantity, ran⟩ := Bool.and_eq_true_iff.1 ran
  obtain ⟨d', exited, ran⟩ := (Option.any_eq_true _ _).1 ran
  obtain ⟨sent, ran⟩ := Bool.and_eq_true_iff.1 ran
  obtain ⟨⟨fills, market⟩, answered, sold⟩ := (Option.any_eq_true _ _).1 ran
  exact ⟨o, p, d', fills, market, entered, opened, of_decide_eq_true quantity, exited,
    of_decide_eq_true sent, answered, of_decide_eq_true sold⟩

/-- With a broker that fills orders as they are, exits can sell more than was bought. -/
theorem exits_can_exceed_entry :
    paperEngine.broker.FillsOrders ∧ ∃ o p d' orders fills market,
      paperDesk.book.find? "alice" "BTC-USD" = none ∧
        paperEngine.enter? paperDesk oddEntry = some o ∧
        o.desk.book.find? "alice" "BTC-USD" = some p ∧
        (∀ call ∈ twoHalves, call.Exits "alice" "BTC-USD") ∧
        paperEngine.run? o.desk twoHalves = some d' ∧ d'.sent = o.desk.sent ++ orders ∧
        paperEngine.broker.fills? o.desk.market orders = some (fills, market) ∧
        ¬Engine.StaysWithin p orders fills := by
  refine ⟨Broker.Paper.fillsOrders _, ?_⟩
  obtain ⟨o, p, d', fills, market, entered, opened, quantity, exited, sent, answered, sold⟩ :=
    twoHalves_run
  refine ⟨o, p, d', _, fills, market, rfl, entered, opened, by simp [twoHalves, Call.Exits],
    exited, sent, answered, ?_⟩
  intro within
  have most := within.2
  rw [Engine.total_eq, sold, quantity, List.map_cons, List.map_cons, List.map_nil,
    Decimal.value_const (by decide) (by decide),
    Decimal.value_const (by decide) (by decide)] at most
  norm_num at most

theorem staysWithin_iff_surplusCovered_twoHalves : ∃ o p d',
    paperEngine.enter? paperDesk oddEntry = some o ∧
      o.desk.book.find? "alice" "BTC-USD" = some p ∧
      paperEngine.run? o.desk twoHalves = some d' ∧
      ∃ last orders fills sales,
        Engine.SoldOff paperEngine o.desk d' "alice" "BTC-USD" p last orders fills sales ∧
        (Engine.StaysWithin p orders fills ↔ Engine.SurplusCovered p last sales) ∧
        ∀ s ∈ sales, s.surplus ≤ 1 / 10 ^ 8 := by
  obtain ⟨o, p, d', fills, market, entered, opened, quantity, exited, -⟩ := twoHalves_run
  obtain ⟨last, orders, fills, sales, sold, -, iff, small⟩ :=
    Engine.staysWithin_iff_surplusCovered (Broker.Paper.fillsOrders _) rfl entered opened
      (by simp [twoHalves, Call.Exits, oddEntry]) exited
  refine ⟨o, p, d', entered, opened, exited, last, orders, fills, sales, sold, iff, small ?_⟩
  rw [quantity, Decimal.value_const (by decide) (by decide)]
  norm_num

end TradingDesk.Execution
