import TradingDesk.Proofs.Execution.Bisimulation

/-!
# Times Steer No Execution

A position keeps the time at which it was opened, and a trade the time of its fill.  The clock of
the desk is read to write these times, and nothing that execution decides depends on them.  Two
desks that are the same but for times therefore send the same orders, give the same results, and
stay the same but for times.
-/

namespace TradingDesk

/-! ## Without times -/

/-- A position without the time at which it was opened. -/
def Position.timeless (p : Position) : Position :=
  { p with openedAt := .epoch }

/-- A trade without the time of its fill. -/
def Trade.timeless (t : Trade) : Trade :=
  { t with timestamp := .epoch }

/-- Whether two positions are the same but for their times. -/
def Position.Alike (p p' : Position) : Prop :=
  p.timeless = p'.timeless

/-- Positions that are the same but for their times differ in these alone. -/
theorem Position.Alike.exists_eq {p p' : Position} (same : p.Alike p') :
    ∃ time, p' = { p with openedAt := time } := by
  refine ⟨p'.openedAt, ?_⟩
  cases p
  cases p'
  cases same
  rfl

theorem Position.Alike.timeless_eq {p p' : Position} (same : p.Alike p') :
    p.timeless = p'.timeless :=
  same

theorem Trade.eq_of_timeless {t t' : Trade} (same : t.timeless = t'.timeless) :
    ∃ time, t' = { t with timestamp := time } := by
  refine ⟨t'.timestamp, ?_⟩
  cases t
  cases t'
  cases same
  rfl

namespace Ledger

/-- A row without the time of its fill; a row of text columns is left as it is. -/
def TradeRow.timeless : TradeRow → TradeRow
  | booked trade => booked trade.timeless
  | raw columns => raw columns

/-- What a row holds, without the time of opening; text columns are left as they are. -/
def PositionContent.timeless : PositionContent → PositionContent
  | booked position => booked position.timeless
  | raw columns => raw columns

/-- A row without the time at which its position was opened. -/
def PositionRow.timeless (row : PositionRow) : PositionRow :=
  { row with content := row.content.timeless }

/-- Whether two ledgers hold the same trades and positions but for their times. -/
structure Alike (l l' : Ledger) : Prop where
  trades : l.trades.map TradeRow.timeless = l'.trades.map TradeRow.timeless
  positions : l.positions.map PositionRow.timeless = l'.positions.map PositionRow.timeless
  outages : l.outages = l'.outages

variable {l l' : Ledger} {t t' : Trade} {p p' : Position}

/-- Alike ledgers have the same outages, so an operation takes place in both or in neither. -/
theorem Alike.guarded {α β : Type} {r : α → β → Prop} (h : l.Alike l') (call : Call)
    {result : Except Error α} {result' : Except Error β} (both : RelResult r result result') :
    RelResult r (l.guarded call result) (l'.guarded call result') := by
  unfold Ledger.guarded
  rw [h.outages]
  split
  · exact .error _
  · exact both

theorem id?_timeless (row : TradeRow) : row.timeless.id? = row.id? := by
  cases row <;> rfl

theorem Alike.insertTrade {row row' : TradeRow} (h : l.Alike l')
    (same : row.timeless = row'.timeless) :
    Option.Rel Alike (l.insertTrade row) (l'.insertTrade row') := by
  have ids : row.id? = row'.id? := by
    rw [← id?_timeless row, same, id?_timeless]
  have taken (l : Ledger) : l.trades.any (·.id? == row'.id?) =
      (l.trades.map TradeRow.timeless).any (·.id? == row'.id?) := by
    simp only [List.any_map, Function.comp_def, id?_timeless]
  unfold Ledger.insertTrade
  rw [ids, taken l, h.trades, ← taken l']
  split
  · exact .none
  · refine .some ⟨?_, h.positions, h.outages⟩
    rw [List.map_append, List.map_append, h.trades, List.map_singleton, List.map_singleton, same]

theorem Alike.record (h : l.Alike l') (same : t.timeless = t'.timeless) (expected : Side)
    (call : Call) : RelResult Alike (l.record expected call t) (l'.record expected call t') := by
  obtain ⟨time, rfl⟩ := Trade.eq_of_timeless same
  refine h.guarded call ?_
  dsimp only
  split
  · exact .error _
  · have both : Option.Rel Alike (l.insertTrade (.booked t))
        (l'.insertTrade (.booked { t with timestamp := time })) := h.insertTrade rfl
    generalize l.insertTrade _ = first, l'.insertTrade _ = second at both ⊢
    cases both with
    | none => exact .error _
    | some both => exact .ok both

theorem Alike.recordFill (h : l.Alike l') (same : t.timeless = t'.timeless) :
    RelResult Alike (l.recordFill t) (l'.recordFill t') := by
  have sides : t.side = t'.side := congrArg (·.side) same
  unfold Ledger.recordFill
  rw [← sides]
  split
  · exact h.record same _ _
  · exact h.record same _ _

theorem Alike.openPosition (h : l.Alike l') (same : p.Alike p') :
    RelResult Alike (l.openPosition p) (l'.openPosition p') := by
  refine h.guarded _ (.ok ⟨h.trades, ?_, h.outages⟩)
  rw [List.map_append, List.map_append, h.positions, List.map_singleton, List.map_singleton]
  simp only [PositionRow.timeless, PositionContent.timeless, same.timeless_eq]

theorem isOpenFor_timeless (row : PositionRow) (user symbol : String) :
    row.timeless.isOpenFor user symbol = row.isOpenFor user symbol := by
  obtain ⟨content, price, closed⟩ := row
  cases content <;> rfl

/-- Changes of rows that leave times alone. -/
theorem Alike.mapOpen (h : l.Alike l') (user symbol : String) {f : PositionRow → PositionRow}
    (kept : ∀ row, (f row).timeless = f row.timeless) :
    (l.mapOpen user symbol f).Alike (l'.mapOpen user symbol f) := by
  have rows (l : Ledger) : (l.mapOpen user symbol f).positions.map PositionRow.timeless =
      (l.positions.map PositionRow.timeless).map fun row ↦
        if row.isOpenFor user symbol then f row else row := by
    rw [Ledger.mapOpen, List.map_map, List.map_map]
    apply List.map_congr_left
    intro row _
    rw [Function.comp_apply, Function.comp_apply, isOpenFor_timeless, ← kept]
    split <;> rfl
  refine ⟨h.trades, ?_, h.outages⟩
  rw [rows, rows, h.positions]

theorem Alike.updateRemaining (h : l.Alike l') (same : p.Alike p') :
    RelResult Alike (l.updateRemaining p) (l'.updateRemaining p') := by
  obtain ⟨time, rfl⟩ := same.exists_eq
  refine h.guarded _ (.ok (h.mapOpen _ _ fun row ↦ ?_))
  obtain ⟨content, price, closed⟩ := row
  cases content <;> rfl

theorem Alike.closePosition (h : l.Alike l') (user symbol : String) (price : Decimal) :
    RelResult Alike (l.closePosition user symbol price) (l'.closePosition user symbol price) :=
  h.guarded _ (.ok (h.mapOpen _ _ fun _ ↦ rfl))

end Ledger

namespace Execution

variable {σ α β : Type}

/-! ## The book -/

namespace Book

theorem find?_map_timeless (b : Book) (user symbol : String) :
    Book.find? (b.map Position.timeless) user symbol =
      (b.find? user symbol).map Position.timeless :=
  List.find?_map

theorem map_timeless_insert (b : Book) (p : Position) :
    (b.insert p).map Position.timeless =
      Book.insert (b.map Position.timeless) p.timeless := by
  induction b with
  | nil => rfl
  | cons q b ih =>
    unfold insert
    change (if isAt p.user p.symbol q then p :: b else q :: insert b p).map Position.timeless =
      if isAt p.user p.symbol q then p.timeless :: b.map Position.timeless
      else q.timeless :: insert (b.map Position.timeless) p.timeless
    split
    · rfl
    · rw [List.map_cons, ih]

theorem map_timeless_erase (b : Book) (user symbol : String) :
    (b.erase user symbol).map Position.timeless =
      Book.erase (b.map Position.timeless) user symbol := by
  rw [erase, erase, List.filter_map]
  rfl

end Book

/-! ## The desk -/

/-- Whether two desks are the same but for times. -/
structure Desk.Alike (d d' : Desk σ) : Prop where
  market : d.market = d'.market
  book : d.book.map Position.timeless = d'.book.map Position.timeless
  ledger : d.ledger.Alike d'.ledger
  killSwitch : d.killSwitch = d'.killSwitch
  sent : d.sent = d'.sent
  serial : d.serial = d'.serial

variable {d d' : Desk σ}

open Outcome (related_done related_failed)

namespace Desk.Alike

theorem find? (h : d.Alike d') (user symbol : String) :
    Option.Rel Position.Alike (d.book.find? user symbol) (d'.book.find? user symbol) := by
  apply rel_of_map_eq
  rw [← Book.find?_map_timeless, h.book, Book.find?_map_timeless]

theorem insert {p p' : Position} (h : d.Alike d') (same : p.Alike p') :
    Alike { d with book := d.book.insert p } { d' with book := d'.book.insert p' } := by
  refine ⟨h.market, ?_, h.ledger, h.killSwitch, h.sent, h.serial⟩
  rw [Book.map_timeless_insert, Book.map_timeless_insert, h.book, same.timeless_eq]

theorem erase (h : d.Alike d') (user symbol : String) :
    Alike { d with book := d.book.erase user symbol }
      { d' with book := d'.book.erase user symbol } := by
  refine ⟨h.market, ?_, h.ledger, h.killSwitch, h.sent, h.serial⟩
  rw [Book.map_timeless_erase, Book.map_timeless_erase, h.book]

theorem afterOrder (h : d.Alike d') (order : Order.Request) (market : σ) :
    (d.afterOrder order market).Alike (d'.afterOrder order market) :=
  ⟨rfl, h.book, h.ledger, h.killSwitch, congrArg (· ++ [order]) h.sent, h.serial⟩

/-- Alike desks get the same answers. -/
theorem fill? (h : d.Alike d') (broker : Broker σ) (order : Order.Request) :
    Option.Rel (Outcome.Related Desk.Alike Eq) (d.fill? broker order) (d'.fill? broker order) :=
  fill?_related broker order h.market (h.afterOrder order)

theorem bookTrade {t t' : Trade} {next next' : Ledger → Except Ledger.Error Ledger}
    {r : α → β → Prop} {a : α} {b : β} (h : d.Alike d') (same : t.timeless = t'.timeless)
    (noted : ∀ l l', l.Alike l' → RelResult Ledger.Alike (next l) (next' l')) (both : r a b) :
    (d.bookTrade t next a).Related Desk.Alike r (d'.bookTrade t' next' b) := by
  have advanced (l l' : Ledger) (ledgers : l.Alike l') :
      Alike { d.advance with ledger := l } { d'.advance with ledger := l' } :=
    ⟨h.market, h.book, ledgers, h.killSwitch, h.sent, congrArg (· + 1) h.serial⟩
  unfold Desk.bookTrade recordInto
  have recorded := h.ledger.recordFill same
  generalize d.ledger.recordFill t = first, d'.ledger.recordFill t' = second at recorded ⊢
  cases recorded with
  | error e => exact related_failed (advanced _ _ h.ledger) _
  | @ok l l' ledgers =>
    dsimp only
    have written := noted l l' ledgers
    generalize next l = first, next' l' = second at written ⊢
    cases written with
    | error e => exact related_failed (advanced _ _ ledgers) _
    | ok ledgers => exact related_done (advanced _ _ ledgers) both

end Desk.Alike

/-! ## Entries and exits -/

namespace Engine

theorem position?_alike (e : Engine σ) (entry : Entry) (fill : Order.Confirmed)
    (now now' : Instant) :
    Option.Rel Position.Alike (e.position? entry fill now) (e.position? entry fill now') :=
  rel_bind_same _ fun _ ↦ .some rfl

theorem open?_alike (e : Engine σ) (h : d.Alike d') (entry : Entry) (fill : Order.Confirmed) :
    Option.Rel (Outcome.Related Desk.Alike Position.Alike) (e.open? d entry fill)
      (e.open? d' entry fill) := by
  refine rel_bind (e.position?_alike entry fill _ _) fun p p' _ same ↦ ?_
  refine rel_bind_same _ fun fee ↦ .some ?_
  obtain ⟨time, rfl⟩ := same.exists_eq
  refine (h.insert same).bookTrade ?_ (fun l l' ledgers ↦ ledgers.openPosition same) same
  simp only [Desk.trade, Trade.timeless, h.serial]

theorem unwind?_alike (e : Engine σ) (h : d.Alike d') (entry : Entry) (fill : Order.Confirmed) :
    Option.Rel Desk.Alike (e.unwind? d entry fill) (e.unwind? d' entry fill) :=
  rel_bind (h.fill? e.broker _) fun _ _ _ both ↦ .some both.desk

theorem accept?_alike (e : Engine σ) (h : d.Alike d') (entry : Entry) (fill : Order.Confirmed) :
    Option.Rel (Outcome.Related Desk.Alike Position.Alike) (e.accept? entry d fill)
      (e.accept? entry d' fill) := by
  refine rel_bind_same _ fun slippage ↦ ?_
  split
  · exact rel_bind (e.unwind?_alike h entry fill) fun _ _ _ both ↦
      .some (related_failed both _)
  · exact e.open?_alike h entry fill

theorem screen_alike (e : Engine σ) (h : d.Alike d') (entry : Entry) :
    e.screen d entry = e.screen d' entry := by
  unfold screen
  rw [h.killSwitch, isSome_eq_of_rel (h.find? entry.user entry.symbol)]

theorem enter?_alike (e : Engine σ) (h : d.Alike d') (entry : Entry) :
    Option.Rel (Outcome.Related Desk.Alike Position.Alike) (e.enter? d entry)
      (e.enter? d' entry) := by
  unfold enter?
  rw [e.screen_alike h entry]
  split
  · exact .some (related_failed h _)
  · refine rel_bind_same _ fun order ↦ ?_
    refine rel_bind (h.fill? e.broker order) fun o o' _ both ↦ both.andThen? ?_
    rintro d d' fill _ desks rfl
    exact e.accept?_alike desks entry fill

theorem afterExit?_alike {p p' : Position} (same : p.Alike p') (x : Exit)
    (fill : Order.Confirmed) :
    Option.Rel Position.Alike (afterExit? p x fill) (afterExit? p' x fill) := by
  have reduced (fraction : Decimal) :
      Option.Rel Position.Alike (p.reduce? fraction) (p'.reduce? fraction) := by
    obtain ⟨time, rfl⟩ := same.exists_eq
    exact rel_bind_same (Decimal.sub? p.remaining (p.removable fraction)) fun _ ↦ .some rfl
  have fractions : filledFraction? p' x.fraction fill = filledFraction? p x.fraction fill := by
    obtain ⟨time, rfl⟩ := same.exists_eq
    rfl
  unfold afterExit?
  rw [fractions]
  refine rel_bind_same _ fun fraction ↦ rel_bind (reduced fraction) fun p p' _ same ↦ .some ?_
  obtain ⟨time, rfl⟩ := same.exists_eq
  cases x.level with
  | none => exact same
  | some index => rfl

theorem noteExit_alike {p p' : Position} (same : p.Alike p') (price : Decimal) {l l' : Ledger}
    (ledgers : l.Alike l') :
    RelResult Ledger.Alike (noteExit p price l) (noteExit p' price l') := by
  obtain ⟨time, rfl⟩ := same.exists_eq
  unfold noteExit
  change RelResult _ (if p.isClosed then _ else _) (if p.isClosed then _ else _)
  split
  · exact ledgers.closePosition _ _ _
  · exact ledgers.updateRemaining same

theorem bookAfter_alike {p p' : Position} (h : d.Alike d') (same : p.Alike p') :
    Desk.Alike { d with book := bookAfter d.book p } { d' with book := bookAfter d'.book p' } := by
  obtain ⟨time, rfl⟩ := same.exists_eq
  unfold bookAfter
  change Desk.Alike { d with book := if p.isClosed then _ else _ }
    { d' with book := if p.isClosed then _ else _ }
  split
  · exact h.erase _ _
  · exact h.insert same

theorem settle?_alike (e : Engine σ) {p p' : Position} (same : p.Alike p') (h : d.Alike d')
    (x : Exit) (fill : Order.Confirmed) :
    Option.Rel (Outcome.Related Desk.Alike Eq) (e.settle? p x d fill)
      (e.settle? p' x d' fill) := by
  obtain ⟨time, rfl⟩ := same.exists_eq
  refine rel_bind (afterExit?_alike same x fill) fun after after' _ both ↦ ?_
  obtain ⟨time', rfl⟩ := both.exists_eq
  refine rel_bind_same (e.report? after x fill) fun report ↦ .some ?_
  refine (bookAfter_alike h both).bookTrade ?_ (fun l l' ↦ noteExit_alike both _) rfl
  simp only [Desk.trade, Trade.timeless, h.serial]

/-- Exits treat desks alike that are the same but for times. -/
theorem bisimulation_alike (e : Engine σ) : e.Bisimulation Position.Alike Desk.Alike where
  position same := same.exists_eq
  held h := h.find?
  market h := h.market
  order h := h.afterOrder
  settle same h := e.settle?_alike same h

end Engine

end Execution

end TradingDesk
