import TradingDesk.Proofs.Execution.Run

/-!
# Booking without Outages

A desk that started without records and whose ledger has no outages can book every fill: the names
of its trades were drawn from its counter, so the next name is new.  Every operation keeps such a
desk writable, and the only failures of an exit or an entry on it are those of the order.
-/

namespace TradingDesk.Execution

variable {σ : Type} {e : Engine σ} {d d' : Desk σ}

/-- A desk without outages whose trades have names that were drawn from its counter. -/
structure Desk.Writable (d : Desk σ) : Prop where
  online : d.ledger.outages = []
  named : ∀ row ∈ d.ledger.trades, ∃ n < d.serial, row.id? = some (.drawn n)

namespace Desk

theorem writable_new (market : σ) (killSwitch : KillSwitch) (clock : Instant) :
    (Desk.new market killSwitch clock).Writable :=
  ⟨rfl, by simp [Desk.new, Ledger.empty]⟩

theorem Writable.fresh (w : d.Writable) {t : Trade} (drawn : t.id = .drawn d.serial) :
    ∀ row ∈ d.ledger.trades, row.id? ≠ some t.id := by
  intro row mem same
  obtain ⟨n, below, name⟩ := w.named row mem
  rw [name, drawn, Option.some.injEq, Trade.Id.drawn.injEq] at same
  omega

theorem Writable.afterOrder (w : d.Writable) (order : Order.Request) (market : σ) :
    (d.afterOrder order market).Writable :=
  ⟨w.online, w.named⟩

/-- A desk stays writable when a trade is booked under its next name. -/
theorem Writable.book (w : d.Writable) {t : Trade} (drawn : t.id = .drawn d.serial)
    (trades : d'.ledger.trades = d.ledger.trades ++ [.booked t])
    (online : d'.ledger.outages = d.ledger.outages) (serial : d'.serial = d.serial + 1) :
    d'.Writable := by
  refine ⟨online.trans w.online, fun row mem ↦ ?_⟩
  rw [trades, List.mem_append, List.mem_singleton] at mem
  obtain old | rfl := mem
  · obtain ⟨n, below, name⟩ := w.named row old
    exact ⟨n, by omega, name⟩
  · exact ⟨d.serial, by omega, by rw [← drawn]; rfl⟩

end Desk

/-! ## The book after an exit -/

/-- What the book holds of a position, which is nothing once it is closed. -/
def kept? (p : Position) : Option Position :=
  if p.isClosed then none else some p

theorem kept?_eq_some {p q : Position} (h : kept? p = some q) : p = q ∧ p.isClosed = false := by
  unfold kept? at h
  split at h
  · cases h
  · rename_i opened
    exact ⟨Option.some.inj h, Bool.eq_false_iff.2 opened⟩

theorem find?_bookAfter (b : Book) (p : Position) :
    (Engine.bookAfter b p).find? p.user p.symbol = kept? p := by
  unfold Engine.bookAfter kept?
  split
  · exact Book.find?_erase_self b p.user p.symbol
  · exact Book.find?_insert_self b p

theorem find?_bookAfter_of_ne {b : Book} {p : Position} {user symbol : String}
    (other : ¬(p.user = user ∧ p.symbol = symbol)) :
    (Engine.bookAfter b p).find? user symbol = b.find? user symbol := by
  unfold Engine.bookAfter
  split
  · exact Book.find?_erase_of_ne other
  · exact Book.find?_insert_of_ne other

namespace Engine

/-! ## Entries -/

/-- The trade of an entry fill. -/
def entryTrade (d : Desk σ) (entry : Entry) (fill : Order.Confirmed) (p : Position)
    (fee : Decimal) : Trade :=
  d.trade p entry.side .entry fill fee Decimal.zero "entry"

/-- The desk after an entry fill is booked. -/
def afterEntry (d : Desk σ) (entry : Entry) (fill : Order.Confirmed) (p : Position)
    (fee : Decimal) : Desk σ :=
  { d.advance with
    book := d.book.insert p
    ledger := { d.ledger with
      trades := d.ledger.trades ++ [.booked (entryTrade d entry fill p fee)]
      positions := d.ledger.positions ++ [⟨.booked p, none, false⟩] } }

theorem opened_of_writable (w : d.Writable) (entry : Entry) (fill : Order.Confirmed)
    (p : Position) (fee : Decimal) :
    opened d entry fill p fee = .done (afterEntry d entry fill p fee) p := by
  have recorded := Ledger.recordFill_of_fresh w.online
    (w.fresh (t := entryTrade d entry fill p fee) rfl)
  have noted := Ledger.openPosition_of_online
    (l := { d.ledger with
      trades := d.ledger.trades ++ [.booked (entryTrade d entry fill p fee)] }) w.online p
  unfold entryTrade at recorded noted
  simp only [opened, Desk.bookTrade, Desk.recordInto, recorded, noted]
  rfl

theorem writable_afterEntry (w : d.Writable) (entry : Entry) (fill : Order.Confirmed)
    (p : Position) (fee : Decimal) : (afterEntry d entry fill p fee).Writable :=
  w.book (t := entryTrade d entry fill p fee) rfl rfl rfl rfl

/-! ## Exits -/

/-- The trade of an exit fill. -/
def exitTrade (d : Desk σ) (p after : Position) (x : Exit) (fill : Order.Confirmed)
    (report : ExitReport) : Trade :=
  d.trade after p.side.opposite .exit fill report.fee report.profit x.reason

/-- A ledger in which the row of a position shows an exit at a price. -/
def exitNoted (after : Position) (price : Decimal) (l : Ledger) : Ledger :=
  if after.isClosed then l.mapOpen after.user after.symbol (·.close price)
  else l.mapOpen after.user after.symbol fun row ↦
    { row with content := row.content.withProgress after.remaining after.ladderHits }

@[simp]
theorem trades_exitNoted (after : Position) (price : Decimal) (l : Ledger) :
    (exitNoted after price l).trades = l.trades := by
  unfold exitNoted
  split <;> rfl

@[simp]
theorem outages_exitNoted (after : Position) (price : Decimal) (l : Ledger) :
    (exitNoted after price l).outages = l.outages := by
  unfold exitNoted
  split <;> rfl

theorem noteExit_of_online {l : Ledger} (online : l.outages = []) (after : Position)
    (price : Decimal) : noteExit after price l = .ok (exitNoted after price l) := by
  unfold noteExit exitNoted
  split
  · exact Ledger.closePosition_of_online online _ _ _
  · exact Ledger.updateRemaining_of_online online _

/-- The desk after an exit fill is booked. -/
def afterExit (d : Desk σ) (p after : Position) (x : Exit) (fill : Order.Confirmed)
    (report : ExitReport) : Desk σ :=
  { d.advance with
    book := bookAfter d.book after
    ledger := exitNoted after fill.price
      { d.ledger with trades := d.ledger.trades ++ [.booked (exitTrade d p after x fill report)] } }

theorem settled_of_writable (w : d.Writable) (p after : Position) (x : Exit)
    (fill : Order.Confirmed) (report : ExitReport) :
    settled d p after x fill report = .done (afterExit d p after x fill report) report := by
  have recorded := Ledger.recordFill_of_fresh w.online
    (w.fresh (t := exitTrade d p after x fill report) rfl)
  have noted := noteExit_of_online
    (l := { d.ledger with
      trades := d.ledger.trades ++ [.booked (exitTrade d p after x fill report)] })
    w.online after fill.price
  unfold exitTrade at recorded noted
  simp only [settled, Desk.bookTrade, Desk.recordInto, recorded, noted]
  rfl

theorem writable_afterExit (w : d.Writable) (p after : Position) (x : Exit)
    (fill : Order.Confirmed) (report : ExitReport) :
    (afterExit d p after x fill report).Writable :=
  w.book (t := exitTrade d p after x fill report) rfl (by simp [afterExit]) (by simp [afterExit])
    rfl

/-! ## Every operation -/

theorem enter?_writable {entry : Entry} {o : Outcome σ Position} (w : d.Writable)
    (h : e.enter? d entry = some o) : o.desk.Writable := by
  cases enter?_step h with
  | barred => exact w
  | unfilled screened ordered answered =>
    obtain ⟨market, rfl⟩ := Desk.fill?_desk answered
    exact w.afterOrder _ _
  | slipped screened ordered answered measured above unwound =>
    obtain ⟨market, rfl⟩ := Desk.fill?_desk answered
    obtain ⟨market', rfl⟩ := unwind?_desk unwound
    exact (w.afterOrder _ _).afterOrder _ _
  | @filled order _ _ _ _ _ screened ordered answered measured within formed charged =>
    obtain ⟨market, rfl⟩ := Desk.fill?_desk answered
    have w' := w.afterOrder order market
    rw [opened_of_writable w']
    exact writable_afterEntry w' _ _ _ _

theorem exit?_writable {x : Exit} {o : Outcome σ ExitReport} (w : d.Writable)
    (h : e.exit? d x = some o) : o.desk.Writable := by
  cases exit?_step h with
  | invalid => exact w
  | absent => exact w
  | unfilled inside held ordered answered =>
    obtain ⟨market, rfl⟩ := Desk.fill?_desk answered
    exact w.afterOrder _ _
  | @filled _ _ order _ _ _ inside held ordered answered reduced reported =>
    obtain ⟨market, rfl⟩ := Desk.fill?_desk answered
    have w' := w.afterOrder order market
    rw [settled_of_writable w']
    exact writable_afterExit w' _ _ _ _ _

end Engine

end TradingDesk.Execution
