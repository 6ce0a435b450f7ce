import TradingDesk.Proofs.Execution.Booking

/-!
# Results of Exits

The ledger of a desk that started without records lists its trades in the order of their booking.
Every exit that goes through adds one trade, with the result that its report shows, and an exit that
fails adds none.  The net result of an exit can be read off the ledger alone: it is the result less
the fee of the exit, and less the fee rate on what was exited at the price of the latest entry into
the symbol before it.
-/

namespace TradingDesk

namespace Ledger

/-- The trade of a row that a desk booked. -/
def TradeRow.trade? : TradeRow → Option Trade
  | .booked t => some t
  | .raw _ => none

/-- The booked trades, newest first. -/
def history (l : Ledger) : List Trade :=
  (l.trades.filterMap TradeRow.trade?).reverse

/-- Whether a trade is an exit of a user. -/
def isExitOf (user : String) (t : Trade) : Bool :=
  t.kind = .exit && t.user = user

/-- The exits of a user, newest first. -/
def exitsOf (l : Ledger) (user : String) : List Trade :=
  l.history.filter (isExitOf user)

theorem history_of_trades {l l' : Ledger} (same : l'.trades = l.trades) :
    l'.history = l.history := by
  rw [history, history, same]

theorem history_of_booked {l l' : Ledger} {t : Trade}
    (booked : l'.trades = l.trades ++ [.booked t]) : l'.history = t :: l.history := by
  simp [history, booked, TradeRow.trade?]

end Ledger

namespace Execution

/-! ## Reading trades back -/

theorem Desk.Writable.booked {σ : Type} {d : Desk σ} (w : d.Writable) {row : Ledger.TradeRow}
    (mem : row ∈ d.ledger.trades) : ∃ t, row = .booked t := by
  obtain ⟨n, -, name⟩ := w.named row mem
  cases row with
  | booked t => exact ⟨t, rfl⟩
  | raw columns => simp [Ledger.TradeRow.id?] at name

theorem mapM_read {rows : List Ledger.TradeRow} (booked : ∀ row ∈ rows, ∃ t, row = .booked t) :
    rows.mapM Ledger.TradeRow.read = .ok (rows.filterMap Ledger.TradeRow.trade?) := by
  induction rows with
  | nil => rfl
  | cons row rows ih =>
    obtain ⟨t, rfl⟩ := booked row List.mem_cons_self
    rw [List.mapM_cons, ih fun row mem ↦ booked row (List.mem_cons_of_mem _ mem)]
    rfl

/-- What the ledger of a desk reads back are its trades. -/
theorem Desk.Writable.readTrades {σ : Type} {d : Desk σ} (w : d.Writable) (user : Option String) :
    ∃ trades, d.ledger.readTrades user (-1) = .ok trades ∧
      trades.Perm (d.ledger.history.filter (Ledger.matchesUser user ·.user)) := by
  have sorted : (d.ledger.tradeRows user).Perm
      (d.ledger.trades.filter (Ledger.matchesUser user ·.user)) :=
    List.mergeSort_perm _ _
  have booked : ∀ row ∈ d.ledger.tradeRows user, ∃ t, row = .booked t :=
    fun row mem ↦ w.booked (List.mem_filter.1 (sorted.mem_iff.1 mem)).1
  refine ⟨(d.ledger.tradeRows user).filterMap Ledger.TradeRow.trade?, ?_, ?_⟩
  · have readable : (d.ledger.tradeRows user).all Ledger.TradeRow.isReadable = true := by
      rw [List.all_eq_true]
      intro row mem
      obtain ⟨t, rfl⟩ := booked row mem
      rfl
    change (if (d.ledger.tradeRows user).all Ledger.TradeRow.isReadable then _ else _) = _
    rw [if_pos readable]
    exact mapM_read booked
  · refine (sorted.filterMap _).trans ?_
    rw [Ledger.history, List.filter_reverse]
    refine List.Perm.trans (List.Perm.of_eq ?_) (List.reverse_perm _).symm
    rw [List.filterMap_filter, List.filter_filterMap]
    congr 1
    funext row
    cases row with
    | raw columns => simp [Ledger.TradeRow.trade?]
    | booked t =>
      by_cases ofUser : Ledger.matchesUser user t.user = true <;>
        simp [Ledger.TradeRow.trade?, Ledger.TradeRow.user, Option.filter, ofUser]

/-! ## Net results -/

/-- The price of the latest entry of a user into a symbol, among trades that are newest first. -/
def entryPrice? (user symbol : String) (trades : List Trade) : Option Decimal :=
  (trades.find? fun t ↦ t.kind = .entry && t.user = user && t.symbol = symbol).map (·.price)

/-- The result of an exit after its fee and its share of the fee of the entry, given the trades
before it. -/
def netResult? (s : Settings) (older : List Trade) (t : Trade) : Option Decimal := do
  let price ← entryPrice? t.user t.symbol older
  let entryFee ← s.fee? t.quantity price
  let afterExit ← Decimal.sub? t.profit t.fee
  Decimal.sub? afterExit entryFee

/-- The net results of the exits of a user, newest first. -/
def netResults? (s : Settings) (user : String) : List Trade → Option (List Decimal)
  | [] => some []
  | t :: older =>
    if Ledger.isExitOf user t then do
      let nets ← netResults? s user older
      let net ← netResult? s older t
      some (net :: nets)
    else
      netResults? s user older

theorem entryPrice?_cons_self {t : Trade} (entered : t.kind = .entry) (trades : List Trade) :
    entryPrice? t.user t.symbol (t :: trades) = some t.price := by
  simp [entryPrice?, entered]

theorem entryPrice?_cons_of_ne {t : Trade} {user symbol : String}
    (other : ¬(t.user = user ∧ t.symbol = symbol)) (trades : List Trade) :
    entryPrice? user symbol (t :: trades) = entryPrice? user symbol trades := by
  have away : (decide (t.kind = .entry) && decide (t.user = user) &&
      decide (t.symbol = symbol)) = false := by
    rw [Bool.and_assoc, ← Bool.decide_and, decide_eq_false other, Bool.and_false]
  rw [entryPrice?, entryPrice?, List.find?_cons_of_neg (by simp [away])]

theorem entryPrice?_cons_of_exit {t : Trade} (exited : t.kind = .exit) (user symbol : String)
    (trades : List Trade) :
    entryPrice? user symbol (t :: trades) = entryPrice? user symbol trades := by
  rw [entryPrice?, entryPrice?, List.find?_cons_of_neg (by simp [exited])]

/-! ## From trades to trades -/

variable {σ : Type} {e : Engine σ} {d d' : Desk σ} {s : Settings} {user : String}

/-- Whether a trade books what the report of an exit shows, given the trades before it. -/
structure Books (s : Settings) (older : List Trade) (t : Trade) (r : ExitReport) : Prop where
  kind : t.kind = .exit
  user : t.user = r.user
  profit : t.profit = r.profit
  net : netResult? s older t = r.netProfit?

/-- Entries and exits of a user that were booked one after another, with the reports of the exits,
between trades that are newest first. -/
inductive Grown (s : Settings) (user : String) : List Trade → List ExitReport → List Trade → Prop
  | same (trades : List Trade) : Grown s user trades [] trades
  | entry {trades trades' : List Trade} {reports : List ExitReport} {t : Trade}
      (kind : t.kind = .entry) (more : Grown s user (t :: trades) reports trades') :
      Grown s user trades reports trades'
  | exit {trades trades' : List Trade} {reports : List ExitReport} {t : Trade} {r : ExitReport}
      (booked : Books s trades t r) (ofUser : r.user = user)
      (more : Grown s user (t :: trades) reports trades') :
      Grown s user trades (r :: reports) trades'

namespace Grown

variable {trades trades' trades'' : List Trade} {reports later : List ExitReport}

theorem append (h : Grown s user trades reports trades')
    (h' : Grown s user trades' later trades'') :
    Grown s user trades (reports ++ later) trades'' := by
  induction h with
  | same => exact h'
  | entry kind more ih => exact .entry kind (ih h')
  | exit booked ofUser more ih => exact .exit booked ofUser (ih h')

theorem ofUser (h : Grown s user trades reports trades') : ∀ r ∈ reports, r.user = user := by
  induction h with
  | same => simp
  | entry kind more ih => exact ih
  | exit booked ofUser more ih => exact List.forall_mem_cons.2 ⟨ofUser, ih⟩

/-- The exits that were booked have the results of the reports. -/
theorem profits (h : Grown s user trades reports trades') :
    (trades'.filter (Ledger.isExitOf user)).map (·.profit) =
      (reports.map (·.profit)).reverse ++
        (trades.filter (Ledger.isExitOf user)).map (·.profit) := by
  induction h with
  | same => rfl
  | entry kind more ih =>
    rw [ih, List.filter_cons_of_neg]
    simp [Ledger.isExitOf, kind]
  | exit booked ofUser more ih =>
    rw [ih, List.filter_cons_of_pos]
    · simp [booked.profit]
    · simp [Ledger.isExitOf, booked.kind, booked.user, ofUser]

/-- The net results that the trades show are those of the reports. -/
theorem netResults?_eq {nets before : List Decimal} (h : Grown s user trades reports trades')
    (known : netResults? s user trades = some before)
    (reported : reports.mapM (·.netProfit?) = some nets) :
    netResults? s user trades' = some (nets.reverse ++ before) := by
  induction h generalizing nets before with
  | same =>
    cases reported
    exact known
  | entry kind more ih =>
    refine ih ?_ reported
    rw [netResults?, if_neg]
    · exact known
    · simp [Ledger.isExitOf, kind]
  | @exit trades trades' reports t r booked ofUser more ih =>
    rw [List.mapM_cons] at reported
    obtain ⟨net, reportedNet, reported⟩ := Option.bind_eq_some_iff.1 reported
    obtain ⟨nets', reported', rest⟩ := Option.bind_eq_some_iff.1 reported
    cases rest
    have shown : netResults? s user (t :: trades) = some (net :: before) := by
      rw [netResults?, if_pos]
      · rw [known, booked.net, reportedNet]
        rfl
      · simp [Ledger.isExitOf, booked.kind, booked.user, ofUser]
    rw [ih shown reported']
    simp

end Grown

/-! ## Steps of a desk -/

/-- Whether the latest entry into the symbol of each open position has its price at entry. -/
def Desk.Priced (d : Desk σ) : Prop :=
  ∀ user symbol p, d.book.find? user symbol = some p →
    entryPrice? user symbol d.ledger.history = some p.entryPrice

theorem Desk.priced_new (market : σ) (killSwitch : KillSwitch) (clock : Instant) :
    (Desk.new market killSwitch clock).Priced := by
  intro user symbol p held
  cases held

namespace Engine

variable {entry : Entry} {p after : Position} {x : Exit} {fill : Order.Confirmed} {fee : Decimal}
  {report : ExitReport}

theorem history_afterEntry (d : Desk σ) (entry : Entry) (fill : Order.Confirmed) (p : Position)
    (fee : Decimal) :
    (afterEntry d entry fill p fee).ledger.history =
      entryTrade d entry fill p fee :: d.ledger.history :=
  Ledger.history_of_booked rfl

theorem history_afterExit (d : Desk σ) (p after : Position) (x : Exit) (fill : Order.Confirmed)
    (report : ExitReport) :
    (afterExit d p after x fill report).ledger.history =
      exitTrade d p after x fill report :: d.ledger.history :=
  Ledger.history_of_booked (by simp [afterExit])

theorem priced_afterEntry (priced : d.Priced) (price : p.entryPrice = fill.price) :
    (afterEntry d entry fill p fee).Priced := by
  intro user symbol q held
  change (d.book.insert p).find? user symbol = some q at held
  rw [history_afterEntry]
  by_cases here : p.user = user ∧ p.symbol = symbol
  · obtain ⟨rfl, rfl⟩ := here
    rw [Book.find?_insert_self] at held
    cases held
    rw [price]
    exact entryPrice?_cons_self rfl d.ledger.history
  · rw [Book.find?_insert_of_ne here] at held
    rw [entryPrice?_cons_of_ne here]
    exact priced user symbol q held

theorem priced_afterExit (priced : d.Priced) (held : d.book.find? x.user x.symbol = some p)
    (reduced : afterExit? p x fill = some after) :
    (afterExit d p after x fill report).Priced := by
  intro user symbol q held'
  change (bookAfter d.book after).find? user symbol = some q at held'
  obtain ⟨ofUser, inSymbol⟩ := Book.of_find?_eq_some held
  have kept := afterExit?_eq reduced
  rw [history_afterExit, entryPrice?_cons_of_exit rfl]
  by_cases here : after.user = user ∧ after.symbol = symbol
  · obtain ⟨rfl, rfl⟩ := here
    rw [find?_bookAfter] at held'
    obtain ⟨rfl, -⟩ := kept?_eq_some held'
    rw [kept, ofUser, inSymbol]
    exact priced x.user x.symbol p held
  · rw [find?_bookAfter_of_ne here] at held'
    exact priced user symbol q held'

/-- The trade of an exit fill books its report. -/
theorem books_exitTrade (priced : d.Priced) (held : d.book.find? x.user x.symbol = some p)
    (reduced : afterExit? p x fill = some after)
    (reported : e.report? after x fill = some report) :
    Books e.settings d.ledger.history (exitTrade d p after x fill report) report := by
  obtain ⟨ofUser, inSymbol⟩ := Book.of_find?_eq_some held
  have kept := afterExit?_eq reduced
  have user : after.user = x.user := by rw [kept, ← ofUser]
  have symbol : after.symbol = x.symbol := by rw [kept, ← inSymbol]
  have price : entryPrice? after.user after.symbol d.ledger.history = some after.entryPrice := by
    rw [user, symbol, kept]
    exact priced x.user x.symbol p held
  obtain ⟨profit, gained, reported⟩ := Option.bind_eq_some_iff.1 reported
  obtain ⟨entryFee, entered, reported⟩ := Option.bind_eq_some_iff.1 reported
  obtain ⟨fee, charged, reported⟩ := Option.bind_eq_some_iff.1 reported
  cases reported
  refine ⟨rfl, user, rfl, ?_⟩
  change (entryPrice? after.user after.symbol d.ledger.history).bind _ = _
  rw [price]
  change (e.settings.fee? fill.quantity after.entryPrice).bind _ = _
  rw [entered]
  rfl

/-- An entry adds at most one trade, which is no exit. -/
theorem enter?_grown {o : Outcome σ Position} (w : d.Writable) (priced : d.Priced)
    (s : Settings) (user : String) (h : e.enter? d entry = some o) :
    o.desk.Priced ∧ Grown s user d.ledger.history [] o.desk.ledger.history := by
  cases enter?_step h with
  | barred => exact ⟨priced, .same _⟩
  | unfilled screened ordered answered =>
    obtain ⟨market, rfl⟩ := Desk.fill?_desk answered
    exact ⟨priced, .same _⟩
  | slipped screened ordered answered measured above unwound =>
    obtain ⟨market, rfl⟩ := Desk.fill?_desk answered
    obtain ⟨market', rfl⟩ := unwind?_desk unwound
    exact ⟨priced, .same _⟩
  | @filled order _ fill _ p fee screened ordered answered measured within formed charged =>
    obtain ⟨market, rfl⟩ := Desk.fill?_desk answered
    obtain ⟨-, -, price⟩ := position?_key formed
    have priced' : (d.afterOrder order market).Priced := priced
    rw [opened_of_writable (w.afterOrder order market)]
    refine ⟨priced_afterEntry priced' price, ?_⟩
    change Grown s user _ []
      (afterEntry (d.afterOrder order market) entry fill p fee).ledger.history
    rw [history_afterEntry]
    exact .entry rfl (.same _)

/-- An exit that goes through adds the trade that books its report, and one that fails adds none. -/
theorem exit?_grown {o : Outcome σ ExitReport} (w : d.Writable) (priced : d.Priced)
    (h : e.exit? d x = some o) :
    o.desk.Priced ∧
      Grown e.settings x.user d.ledger.history (reports [o]) o.desk.ledger.history := by
  cases exit?_step h with
  | invalid => exact ⟨priced, .same _⟩
  | absent => exact ⟨priced, .same _⟩
  | unfilled inside held ordered answered =>
    obtain ⟨market, rfl⟩ := Desk.fill?_desk answered
    exact ⟨priced, .same _⟩
  | @filled p after order _ fill report inside held ordered answered reduced reported =>
    obtain ⟨market, rfl⟩ := Desk.fill?_desk answered
    have priced' : (d.afterOrder order market).Priced := priced
    have booked := books_exitTrade priced' held reduced reported
    have ofUser : report.user = x.user := by
      obtain ⟨user, -⟩ := Book.of_find?_eq_some held
      rw [← booked.user, ← user]
      change after.user = p.user
      rw [afterExit?_eq reduced]
    rw [settled_of_writable (w.afterOrder order market), reports_cons_of_ok rfl]
    refine ⟨priced_afterExit priced' held reduced, ?_⟩
    change Grown _ _ _ _
      (afterExit (d.afterOrder order market) p after x fill report).ledger.history
    rw [history_afterExit]
    exact .exit booked ofUser (.same _)

/-- Exits tried one after another add the trades that book the reports of those that went
through. -/
theorem Attempts.grown {symbol : String} {tried : List (Outcome σ ExitReport)}
    (h : Attempts e user symbol d tried d') (w : d.Writable) (priced : d.Priced) :
    d'.Priced ∧ Grown e.settings user d.ledger.history (reports tried) d'.ledger.history := by
  induction h with
  | none d => exact ⟨priced, .same _⟩
  | @next d d' x o rest ofUser inSymbol tried more ih =>
    obtain ⟨priced', grown⟩ := exit?_grown w priced tried
    obtain ⟨priced'', grown'⟩ := ih (exit?_writable w tried) priced'
    rw [ofUser] at grown
    exact ⟨priced'', reports_append [o] rest ▸ grown.append grown'⟩

end Engine

end Execution

end TradingDesk
