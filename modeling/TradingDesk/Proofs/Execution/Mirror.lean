import TradingDesk.Proofs.Execution.Book
import TradingDesk.Proofs.Execution.Booking
import TradingDesk.Proofs.Execution.Gate
import TradingDesk.Proofs.Ledger.Columns
import TradingDesk.Proofs.Order.Confirmation

/-!
# The Ledger Mirrors the Book

The book and the positions of the ledger are changed by different operations: filing, replacing and
removing on one side, adding a row and rewriting all open rows of a user in a symbol on the other.
On a desk that started without records and has no outages, the open rows of the ledger are at every
moment exactly the positions of the book, in the same order and with the same fields, and no two of
them are of one user in one symbol.

An engine that starts over a ledger takes the open rows into an empty book.  With as many ladder
levels as before it finds the book as it was, so a restart is not noticed.  The same holds of the
rows as text, since no amount of a position is ever a zero with a sign.
-/

namespace TradingDesk

namespace Ledger

/-! ## Open rows after a change -/

/-- The row of an open position. -/
def openRow (p : Position) : PositionRow :=
  ⟨.booked p, none, false⟩

theorem isOpenFor_openRow (p : Position) (user symbol : String) :
    (openRow p).isOpenFor user symbol = Execution.Book.isAt user symbol p := rfl

theorem openRows_none (l : Ledger) : l.openRows none = l.positions.filter (!·.closed) := by
  simp [openRows, matchesUser]

theorem openRows_mapOpen_close (l : Ledger) (user symbol : String) (price : Decimal) :
    (l.mapOpen user symbol (·.close price)).openRows none =
      (l.openRows none).filter fun row ↦ !row.isOpenFor user symbol := by
  rw [openRows_none, openRows_none]
  change ((l.positions.map fun row ↦
    if row.isOpenFor user symbol then row.close price else row).filter _) = _
  induction l.positions with
  | nil => rfl
  | cons row rows ih =>
    by_cases hit : row.isOpenFor user symbol = true
    · have opened : row.closed = false := by
        simp only [PositionRow.isOpenFor, Bool.and_eq_true] at hit
        simpa using hit.1.1
      have shut : (row.close price).closed = true := rfl
      simp [hit, opened, shut, ih]
    · by_cases closed : row.closed = true
      · simp [hit, closed, ih]
      · simp [hit, closed, ih]

theorem openRows_mapOpen {f : PositionRow → PositionRow} (keeps : ∀ row, (f row).closed = row.closed)
    (l : Ledger) (user symbol : String) :
    (l.mapOpen user symbol f).openRows none =
      (l.openRows none).map fun row ↦ if row.isOpenFor user symbol then f row else row := by
  rw [openRows_none, openRows_none]
  change ((l.positions.map fun row ↦
    if row.isOpenFor user symbol then f row else row).filter _) = _
  induction l.positions with
  | nil => rfl
  | cons row rows ih =>
    by_cases hit : row.isOpenFor user symbol = true
    · by_cases closed : row.closed = true
      · simp [hit, closed, keeps, ih]
      · simp [hit, closed, keeps, ih]
    · by_cases closed : row.closed = true
      · simp [hit, closed, ih]
      · simp [hit, closed, ih]

/-- Rows that hold booked positions are read as these positions. -/
theorem readPositions_of_booked {l : Ledger} {ps : List Position}
    (rows : (l.openRows none).map (·.content) = ps.map .booked) :
    l.readPositions none = .ok ps := by
  have readable : (ps.map PositionContent.booked).all PositionContent.isReadable = true := by
    simp [PositionContent.isReadable]
  have read (ps : List Position) :
      (ps.map PositionContent.booked).mapM PositionContent.read = .ok ps := by
    induction ps with
    | nil => rfl
    | cons p ps ih =>
      rw [List.map_cons, List.mapM_cons, ih]
      rfl
  rw [readPositions, rows]
  rw [if_pos readable, read]

end Ledger

namespace Execution

variable {σ : Type} {e : Engine σ} {d d' : Desk σ} {b : Book} {p after : Position}

/-! ## Positions of a run -/

theorem exitLevels?_isPlain {s : Settings} {side : Side} {price stopLoss takeProfit : Decimal}
    (h : s.exitLevels? side price = some (stopLoss, takeProfit)) :
    stopLoss.IsPlain ∧ takeProfit.IsPlain := by
  cases side with
  | buy =>
    obtain ⟨stop, below, h⟩ := Option.bind_eq_some_iff.1 h
    obtain ⟨target, above, h⟩ := Option.bind_eq_some_iff.1 h
    cases h
    obtain ⟨factor, -, below⟩ := Option.bind_eq_some_iff.1 below
    obtain ⟨factor', -, above⟩ := Option.bind_eq_some_iff.1 above
    exact ⟨Decimal.mul?_isPlain below, Decimal.mul?_isPlain above⟩
  | sell =>
    obtain ⟨stop, above, h⟩ := Option.bind_eq_some_iff.1 h
    obtain ⟨target, below, h⟩ := Option.bind_eq_some_iff.1 h
    cases h
    obtain ⟨factor, -, above⟩ := Option.bind_eq_some_iff.1 above
    obtain ⟨factor', -, below⟩ := Option.bind_eq_some_iff.1 below
    exact ⟨Decimal.mul?_isPlain above, Decimal.mul?_isPlain below⟩

/-- A position in a book: its amounts can be written and read, and it has a flag for each level. -/
structure IsRegular (levels : Nat) (p : Position) : Prop where
  plain : p.IsPlain
  flagged : p.ladderHits.length = levels

theorem position?_isRegular {entry : Entry} {fill : Order.Confirmed} {now : Instant}
    (price : fill.price.IsPlain) (quantity : fill.quantity.IsPlain)
    (h : e.position? entry fill now = some p) :
    IsRegular e.settings.ladder.levels.length p := by
  obtain ⟨⟨stopLoss, takeProfit⟩, levels, h⟩ := Option.bind_eq_some_iff.1 h
  cases h
  obtain ⟨stop, target⟩ := exitLevels?_isPlain levels
  exact ⟨⟨price, quantity, stop, target, Decimal.isPlain_one⟩, List.length_replicate⟩

theorem filledFraction?_isPlain {fraction result : Decimal} {fill : Order.Confirmed}
    (plain : fraction.IsPlain) (h : Engine.filledFraction? p fraction fill = some result) :
    result.IsPlain := by
  unfold Engine.filledFraction? at h
  split at h
  · obtain ⟨filled, divided, h⟩ := Option.bind_eq_some_iff.1 h
    cases h
    exact (Decimal.div?_isPlain divided).min plain
  · cases h
    exact plain

theorem afterExit?_isRegular {levels : Nat} {x : Engine.Exit} {fill : Order.Confirmed}
    (regular : IsRegular levels p) (fraction : x.fraction.IsPlain)
    (h : Engine.afterExit? p x fill = some after) : IsRegular levels after := by
  obtain ⟨taken, filled, h⟩ := Option.bind_eq_some_iff.1 h
  obtain ⟨reduced, reduce, h⟩ := Option.bind_eq_some_iff.1 h
  obtain ⟨remaining, subtracted, reduce⟩ := Option.bind_eq_some_iff.1 reduce
  cases reduce
  cases h
  obtain ⟨⟨entryPrice, quantity, stopLoss, takeProfit, before⟩, flagged⟩ := regular
  have takenPlain : taken.IsPlain := filledFraction?_isPlain fraction filled
  have remainingPlain : remaining.IsPlain :=
    before.sub? ((takenPlain.min before).max Decimal.isPlain_zero) subtracted
  split
  · exact ⟨⟨entryPrice, quantity, stopLoss, takeProfit, remainingPlain⟩, flagged⟩
  · exact ⟨⟨entryPrice, quantity, stopLoss, takeProfit, remainingPlain⟩, by simpa using flagged⟩

/-! ## The invariant -/

/-- The ledger mirrors the book: its open rows are the positions of the book, which are distinct
and regular. -/
structure Desk.Mirrors (levels : Nat) (d : Desk σ) : Prop where
  writable : d.Writable
  rows : d.ledger.openRows none = d.book.map Ledger.openRow
  distinct : d.book.IsDistinct
  regular : ∀ p ∈ d.book, IsRegular levels p

namespace Desk

variable {levels : Nat}

theorem mirrors_new (levels : Nat) (market : σ) (killSwitch : KillSwitch) (clock : Instant) :
    (Desk.new market killSwitch clock).Mirrors levels :=
  ⟨writable_new market killSwitch clock, rfl, List.Pairwise.nil, by simp [Desk.new]⟩

theorem Mirrors.afterOrder (m : d.Mirrors levels) (order : Order.Request) (market : σ) :
    (d.afterOrder order market).Mirrors levels :=
  ⟨m.writable.afterOrder order market, m.rows, m.distinct, m.regular⟩

theorem Mirrors.afterEntry (m : d.Mirrors levels) (entry : Entry) (fill : Order.Confirmed)
    (fee : Decimal) (absent : d.book.find? p.user p.symbol = none) (regular : IsRegular levels p) :
    (Engine.afterEntry d entry fill p fee).Mirrors levels := by
  have grown : (Engine.afterEntry d entry fill p fee).book = d.book ++ [p] :=
    Book.insert_of_absent absent
  refine ⟨Engine.writable_afterEntry m.writable entry fill p fee, ?_, ?_, ?_⟩
  · have before := m.rows
    rw [Ledger.openRows_none] at before ⊢
    rw [grown, List.map_append, ← before]
    exact List.filter_append _ _
  · rw [grown]
    exact m.distinct.append_of_absent absent
  · rw [grown]
    intro q mem
    obtain old | new := List.mem_append.1 mem
    · exact m.regular q old
    · rw [List.mem_singleton.1 new]
      exact regular

/-- After an exit the open rows are those of the book after the exit. -/
theorem openRows_exitNoted {l : Ledger} (distinct : b.IsDistinct)
    (held : b.find? after.user after.symbol = some p)
    (kept : after = { p with remaining := after.remaining, ladderHits := after.ladderHits })
    (rows : l.openRows none = b.map Ledger.openRow) (price : Decimal) :
    (Engine.exitNoted after price l).openRows none =
      (Engine.bookAfter b after).map Ledger.openRow := by
  unfold Engine.exitNoted Engine.bookAfter
  split
  · rw [Ledger.openRows_mapOpen_close, rows, List.filter_map]
    rfl
  · rw [Ledger.openRows_mapOpen, rows, Book.insert_of_held distinct held, List.map_map,
      List.map_map]
    · refine List.map_congr_left fun q mem ↦ ?_
      simp only [Function.comp_apply]
      have row := Ledger.isOpenFor_openRow q after.user after.symbol
      by_cases same : Book.isAt after.user after.symbol q = true
      · rw [if_pos same, if_pos (row.trans same), distinct.eq_of_find?_eq_some held mem same]
        conv_rhs => rw [kept]
        rfl
      · rw [if_neg same, if_neg (row ▸ same)]
    · exact fun row ↦ rfl

theorem Mirrors.afterExit (m : d.Mirrors levels) (x : Engine.Exit) (fill : Order.Confirmed)
    (report : ExitReport) (held : d.book.find? after.user after.symbol = some p)
    (kept : after = { p with remaining := after.remaining, ladderHits := after.ladderHits })
    (regular : IsRegular levels after) :
    (Engine.afterExit d p after x fill report).Mirrors levels := by
  refine ⟨Engine.writable_afterExit m.writable p after x fill report, ?_, ?_, ?_⟩
  · refine openRows_exitNoted m.distinct held kept ?_ fill.price
    exact m.rows
  · change (Engine.bookAfter d.book after).IsDistinct
    unfold Engine.bookAfter
    split
    · exact m.distinct.erase after.user after.symbol
    · exact m.distinct.insert after
  · change ∀ q ∈ Engine.bookAfter d.book after, IsRegular levels q
    unfold Engine.bookAfter
    split
    · exact fun q mem ↦ m.regular q (List.mem_filter.1 mem).1
    · rw [Book.insert_of_held m.distinct held]
      intro q mem
      obtain ⟨r, old, rfl⟩ := List.mem_map.1 mem
      split
      · exact regular
      · exact m.regular r old

end Desk

namespace Engine

theorem entryOrder?_isPlain {entry : Entry} {order : Order.Request}
    (h : entryOrder? entry = some order) : order.quantity.IsPlain := by
  obtain ⟨quantity, divided, h⟩ := Option.bind_eq_some_iff.1 h
  cases h
  exact (Decimal.div?_isPlain divided).round 8

theorem enter?_mirrors {entry : Entry} {o : Outcome σ Position}
    (m : d.Mirrors e.settings.ladder.levels.length) (h : e.enter? d entry = some o) :
    o.desk.Mirrors e.settings.ladder.levels.length := by
  cases enter?_step h with
  | barred => exact m
  | unfilled screened ordered answered =>
    obtain ⟨market, rfl⟩ := Desk.fill?_desk answered
    exact m.afterOrder _ _
  | slipped screened ordered answered measured above unwound =>
    obtain ⟨market, rfl⟩ := Desk.fill?_desk answered
    obtain ⟨market', rfl⟩ := unwind?_desk unwound
    exact (m.afterOrder _ _).afterOrder _ _
  | @filled order _ fill _ p fee screened ordered answered measured within formed charged =>
    obtain ⟨response, market, placed, checked, rfl⟩ := Desk.fill?_confirmed answered
    have m' := m.afterOrder order market
    have absent : d.book.find? p.user p.symbol = none := by
      obtain ⟨user, symbol, -⟩ := position?_key formed
      rw [user, symbol]
      exact absent_of_not_bars (screen_eq_ok_iff.1 screened)
    obtain ⟨price, quantity⟩ := Order.confirm?_isPlain (entryOrder?_isPlain ordered) checked
    rw [opened_of_writable m'.writable]
    exact m'.afterEntry entry fill fee absent (position?_isRegular price quantity formed)

theorem exit?_mirrors {levels : Nat} {x : Exit} {o : Outcome σ ExitReport}
    (m : d.Mirrors levels) (h : e.exit? d x = some o) : o.desk.Mirrors levels := by
  cases exit?_step h with
  | invalid => exact m
  | absent => exact m
  | unfilled inside held ordered answered =>
    obtain ⟨market, rfl⟩ := Desk.fill?_desk answered
    exact m.afterOrder _ _
  | @filled p after order _ fill report inside held ordered answered reduced reported =>
    obtain ⟨market, rfl⟩ := Desk.fill?_desk answered
    have m' := m.afterOrder order market
    have kept := afterExit?_eq reduced
    obtain ⟨user, symbol⟩ := Book.of_find?_eq_some held
    have held' : d.book.find? after.user after.symbol = some p := by
      rw [kept]
      simpa only [user, symbol] using held
    have regular : IsRegular levels after :=
      afterExit?_isRegular (m.regular p (List.mem_of_find?_eq_some held))
        (Decimal.isPlain_of_zero_lt inside.1) reduced
    rw [settled_of_writable m'.writable]
    exact m'.afterExit x fill report held' kept regular

/-- The ledger keeps mirroring the book, whatever is called and however it ends. -/
theorem run?_mirrors {calls : List Call} (m : d.Mirrors e.settings.ladder.levels.length)
    (ran : e.run? d calls = some d') : d'.Mirrors e.settings.ladder.levels.length :=
  run?_preserves enter?_mirrors exit?_mirrors m ran

/-! ## Restarts -/

theorem resizeHits_of_length {levels : Nat} (flagged : p.ladderHits.length = levels) :
    p.resizeHits levels = p := by
  simp [Position.resizeHits, ← flagged]

theorem openPositions_of_mirrors {levels : Nat} (m : d.Mirrors levels) :
    d.ledger.openPositions none = .ok d.book := by
  rw [Ledger.openPositions, Ledger.guarded_of_no_outage m.writable.online]
  apply Ledger.readPositions_of_booked
  rw [m.rows, List.map_map]
  rfl

/-- A new engine with as many ladder levels finds the book as it was. -/
theorem restore_of_mirrors {levels : Nat} (m : d.Mirrors levels)
    (same : e.settings.ladder.levels.length = levels) (killSwitch : KillSwitch) :
    e.restore (d.restarted killSwitch) =
      .ok ({ d.restarted killSwitch with book := d.book }, d.book.length) := by
  have resized : d.book.map (·.resizeHits levels) = d.book :=
    (List.map_congr_left fun p mem ↦ resizeHits_of_length (m.regular p mem).flagged).trans
      d.book.map_id'
  have filed : d.book.foldl Book.insert [] = d.book :=
    Book.foldl_insert (a := []) m.distinct
  have stored : (d.restarted killSwitch).ledger.openPositions none = .ok d.book :=
    openPositions_of_mirrors m
  rw [restore, stored, same]
  change Except.ok (_, _) = _
  rw [resized]
  change Except.ok (({ d.restarted killSwitch with book := d.book.foldl Book.insert [] } : Desk σ),
    (d.book.foldl Book.insert []).length) = _
  rw [filed]

/-- A run from a desk without records leaves the open rows of the ledger and the book in
correspondence: the same positions in the same order, at most one of a user in a symbol, whose text
columns read back as they are.  A new engine with as many ladder levels takes over the same book. -/
theorem ledger_mirrors_book {market : σ} {killSwitch : KillSwitch} {clock : Instant}
    {calls : List Call} (ran : e.run? (Desk.new market killSwitch clock) calls = some d) :
    d.ledger.openRows none = d.book.map Ledger.openRow ∧
      (∀ user symbol,
        (d.ledger.openRows none).countP (fun row ↦ row.isOpenFor user symbol) ≤ 1) ∧
      (∀ p ∈ d.book, ∃ openedAt,
        (Ledger.PositionContent.raw (Ledger.RawPosition.ofPosition p)).read =
          .ok { p with openedAt := openedAt }) ∧
      d.ledger.openPositions none = .ok d.book ∧
      ∀ (fresh : Engine σ) (switch : KillSwitch),
        fresh.settings.ladder.levels.length = e.settings.ladder.levels.length →
        fresh.restore (d.restarted switch) =
          .ok ({ d.restarted switch with book := d.book }, d.book.length) := by
  have m := run?_mirrors (Desk.mirrors_new _ market killSwitch clock) ran
  refine ⟨m.rows, fun user symbol ↦ ?_, fun p mem ↦ ?_, openPositions_of_mirrors m, ?_⟩
  · rw [m.rows, List.countP_map]
    exact m.distinct.count_isAt_le user symbol
  · exact Ledger.read_ofPosition (m.regular p mem).plain
  · exact fun fresh switch same ↦ restore_of_mirrors m same switch

end Engine

/-! ## A position that was halved -/

/-- A desk whose broker fills all of two orders at 100. -/
def steadyDesk : Desk Broker.Script.State :=
  let answer : Order.Response :=
    { Order.Response.empty with
      status := some "filled"
      orderId := some "steady"
      averageFilledPrice := some (Decimal.const 100 0) }
  Desk.new [.ok answer, .ok answer] (KillSwitch.new none) Instant.epoch

/-- An entry of 100 at a price of 100, and an exit of half of it. -/
def halvedCalls : List Call :=
  [.enter ⟨"alice", "BTC-USD", .buy, Decimal.const 100 0, Decimal.const 100 0⟩,
    .exit "alice" "BTC-USD" (Decimal.const 5 1) "half"]

theorem ledger_mirrors_book_halved :
    ∃ d, rehearsal.run? steadyDesk halvedCalls = some d ∧
      d.book.map (·.remaining) = [Decimal.const 5 1] ∧
      d.ledger.openPositions none = .ok d.book ∧
      rehearsal.restore (d.restarted (KillSwitch.new none)) =
        .ok ({ d.restarted (KillSwitch.new none) with book := d.book }, d.book.length) := by
  have ran : (rehearsal.run? steadyDesk halvedCalls).any (fun d ↦
      decide (d.book.map (·.remaining) = [Decimal.const 5 1])) = true := by
    decide +kernel
  obtain ⟨d, ran, half⟩ := (Option.any_eq_true _ _).1 ran
  obtain ⟨-, -, -, stored, restarts⟩ := Engine.ledger_mirrors_book ran
  exact ⟨d, ran, of_decide_eq_true half, stored, restarts rehearsal (KillSwitch.new none) rfl⟩

end Execution

end TradingDesk
