import TradingDesk.Proofs.Decimal.FractionDigits
import TradingDesk.Proofs.Decimal.QuotientRange
import TradingDesk.Proofs.Execution.ForcedExit
import TradingDesk.Proofs.Execution.Mirror
import TradingDesk.Proofs.Execution.Sale

/-!
# Full Exits That Leave a Rest

A full exit orders what is still held, rounded to eight fraction digits, and takes off the position
the part of the quantity at entry that was filled.  When the rounding goes down, a rest stays on the
position although the order was filled as it was sent.  The exit closes the position exactly if the
rest is below one hundredth of the quantity at entry.

A quantity of at least 51 units of the eighth digit always closes, since half a unit is less than a
hundredth of it.  A quantity of 50 units need not.
-/

namespace TradingDesk.Execution

variable {σ α : Type} {e : Engine σ} {d d' : Desk σ} {user symbol reason : String}
  {p after : Position} {order : Order.Request} {fill : Order.Confirmed} {share : Decimal}
  {x : Engine.Exit} {o : Outcome σ ExitReport} {report : ExitReport}

/-! ## Names of trades -/

/-- Whether the names of all trades were drawn from the counter of a desk. -/
def Desk.DrawsNames (d : Desk σ) : Prop :=
  ∀ row ∈ d.ledger.trades, ∃ n < d.serial, row.id? = some (.drawn n)

namespace Desk

/-- Booking a trade under the next name draws it, whether or not it gets into the ledger. -/
theorem DrawsNames.bookTrade {trade : Trade} {next : Ledger → Except Ledger.Error Ledger}
    {value : α} (draws : d.DrawsNames) (drawn : trade.id = .drawn d.serial)
    (keeps : ∀ l l', next l = .ok l' → l'.trades = l.trades) :
    (d.bookTrade trade next value).desk.DrawsNames := by
  intro row mem
  have serial : (d.bookTrade trade next value).desk.serial = d.serial + 1 := by
    rw [bookTrade_desk]
    rfl
  rw [serial]
  obtain old | rfl := mem_trades_bookTrade keeps mem
  · obtain ⟨n, below, name⟩ := draws row old
    exact ⟨n, by omega, name⟩
  · exact ⟨d.serial, by omega, by rw [← drawn]; rfl⟩

end Desk

namespace Engine

theorem enter?_drawsNames {entry : Entry} {o : Outcome σ Position} (draws : d.DrawsNames)
    (h : e.enter? d entry = some o) : o.desk.DrawsNames := by
  cases enter?_step h with
  | barred => exact draws
  | unfilled screened ordered answered =>
    obtain ⟨market, rfl⟩ := Desk.fill?_desk answered
    exact draws
  | slipped screened ordered answered measured above unwound =>
    obtain ⟨market, rfl⟩ := Desk.fill?_desk answered
    obtain ⟨market', rfl⟩ := unwind?_desk unwound
    exact draws
  | filled screened ordered answered measured within formed charged =>
    obtain ⟨market, rfl⟩ := Desk.fill?_desk answered
    exact Desk.DrawsNames.bookTrade draws rfl (trades_of_openPosition _)

theorem exit?_drawsNames (draws : d.DrawsNames) (h : e.exit? d x = some o) :
    o.desk.DrawsNames := by
  cases exit?_step h with
  | invalid | absent => exact draws
  | unfilled inside held ordered answered =>
    obtain ⟨market, rfl⟩ := Desk.fill?_desk answered
    exact draws
  | filled inside held ordered answered reduced reported =>
    obtain ⟨market, rfl⟩ := Desk.fill?_desk answered
    exact Desk.DrawsNames.bookTrade draws rfl (trades_of_noteExit _ _)

end Engine

theorem Service.step?_drawsNames {s s' : Service σ} {event : Event σ} (draws : s.desk.DrawsNames)
    (h : s.step? event = some s') : s'.desk.DrawsNames := by
  cases event with
  | call call =>
    obtain ⟨d, performed, rfl⟩ := Option.map_eq_some_iff.1 h
    exact Engine.perform?_preserves Engine.enter?_drawsNames Engine.exit?_drawsNames draws
      performed
  | restore =>
    cases h
    obtain ⟨book, restored⟩ := s.engine.restored_eq s.desk
    rw [restored]
    exact draws
  | restart fresh killSwitch =>
    cases h
    obtain ⟨book, restored⟩ := fresh.restored_eq (s.desk.restarted killSwitch)
    rw [restored]
    exact draws
  | meanwhile | outage =>
    cases h
    exact draws

theorem Service.run?_drawsNames {s s' : Service σ} {events : List (Event σ)}
    (draws : s.desk.DrawsNames) (ran : s.run? events = some s') : s'.desk.DrawsNames :=
  run?_induction (P := fun s ↦ s.desk.DrawsNames) (fun _ ↦ step?_drawsNames) draws ran

/-! ## The rest -/

/-- Whether a filled share of the quantity at entry leaves less than one hundredth of it. -/
def ClosesBy (p : Position) (share : Decimal) : Prop :=
  p.remaining.value < share.value + 1 / 100

/-- What a full exit sends is at most twice the quantity at entry, and falls short of what is held by
half a unit and the precision of amounts at most. -/
theorem fullExit_order_bounds (sound : IsSound p)
    (ordered : Engine.exitOrder? p (Engine.fullExit user symbol reason) = some order) :
    0 ≤ order.quantity.value ∧ order.quantity.value ≤ 2 * p.quantity.value ∧
      p.quantity.value * p.remaining.value ≤ order.quantity.value + 1 / 2 / 10 ^ 8 +
        p.quantity.value / 10 ^ 27 + 1 / 10 ^ 28 := by
  obtain ⟨least, whole⟩ := sound.hasShare
  obtain ⟨held, order', multiplied, ordered', -, -, rounded⟩ :=
    Engine.exitOrder?_fullExit user symbol reason sound
  obtain rfl := Option.some.inj (ordered.symm.trans ordered')
  have multiplied : Decimal.mul? p.quantity p.remaining = some held := multiplied
  have nonneg := Decimal.mul?_nonneg sound.nonneg least multiplied
  have most := Decimal.mul?_le_left sound.nonneg least whole multiplied
  have short := Decimal.le_mul? sound.nonneg least whole multiplied
  have near := (abs_le.1 (Decimal.abs_round_sub_le held 8)).1
  rw [rounded]
  refine ⟨Decimal.round_nonneg nonneg 8, (Decimal.round_le_two_mul nonneg).trans ?_, ?_⟩
  · linarith
  · linarith

/-- What is unsold of a position stays a rest below one hundredth, up to the precision of amounts,
when it is below one hundredth of the quantity at entry. -/
theorem closesBy_of_short (sound : IsSound p) (positive : 0 < p.quantity.value)
    (nonneg : 0 ≤ order.quantity.value)
    (divided : Decimal.div? order.quantity p.quantity = some share)
    (short : p.quantity.value * p.remaining.value - order.quantity.value ≤
      p.quantity.value * (1 / 100 - 1 / 10 ^ 26)) : ClosesBy p share := by
  have whole := sound.hasShare.2
  have least := Decimal.div?_nonneg nonneg positive.le divided
  unfold ClosesBy
  by_cases above : 1 ≤ share.value
  · linarith
  · have size : |share.value| ≤ 1 := by
      rw [abs_of_nonneg least]
      exact le_of_not_ge above
    have near := Decimal.div?_approximates (size.trans (by norm_num)) divided
    have close := (abs_le.1 (near.abs_sub_le_of_le_one size)).1
    have part : p.remaining.value - order.quantity.value / p.quantity.value ≤
        1 / 100 - 1 / 10 ^ 26 := by
      rw [← sub_nonneg] at short ⊢
      have scaled : 1 / 100 - 1 / 10 ^ 26 -
          (p.remaining.value - order.quantity.value / p.quantity.value) =
            (p.quantity.value * (1 / 100 - 1 / 10 ^ 26) -
              (p.quantity.value * p.remaining.value - order.quantity.value)) /
                p.quantity.value := by
        field_simp
      rw [scaled]
      positivity
    linarith

theorem filledFraction?_one (positive : Decimal.zero < p.quantity)
    (divided : Decimal.div? fill.quantity p.quantity = some share) :
    Engine.filledFraction? p Decimal.one fill = some (share.min Decimal.one) := by
  simp [Engine.filledFraction?, positive, divided]

/-- A fill of the order of a full exit closes the position exactly if the rest is small. -/
theorem isClosed_iff_closesBy (sound : IsSound p) (positive : Decimal.zero < p.quantity)
    (least : 0 ≤ share.value) (divided : Decimal.div? fill.quantity p.quantity = some share)
    (reduced : Engine.afterExit? p (Engine.fullExit user symbol reason) fill = some after) :
    after.isClosed = true ↔ ClosesBy p share := by
  obtain ⟨-, -, remaining⟩ :=
    afterExit?_share sound.hasShare (filledFraction?_one positive divided) reduced
  obtain ⟨opened, whole⟩ := sound.hasShare
  rw [value_removable, Decimal.value_min, Decimal.value_one, min_assoc, min_eq_right whole,
    max_eq_left (le_min least opened)] at remaining
  rw [Position.isClosed, decide_eq_true_iff, Decimal.lt_iff, value_closedThreshold, remaining,
    ClosesBy]
  obtain below | above := le_total share.value p.remaining.value
  · rw [min_eq_left below, sub_lt_iff_lt_add']
  · rw [min_eq_right above, sub_self]
    exact iff_of_true (by norm_num) (by linarith)

namespace Engine

/-- What a fill takes off a sound position can be taken off it. -/
theorem afterExit?_defined {filled : Decimal} (sound : IsSound p)
    (divided : filledFraction? p x.fraction fill = some filled) :
    ∃ after, afterExit? p x fill = some after := by
  obtain ⟨least, whole⟩ := sound.hasShare
  have size : |p.remaining.value - (p.removable filled).value| ≤ 1 := by
    rw [value_removable, abs_le]
    have most := max_le (min_le_right filled.value p.remaining.value) least
    have nonneg := le_max_right (min filled.value p.remaining.value) 0
    constructor <;> linarith
  obtain ⟨remaining, subtracted⟩ := Decimal.sub?_defined size
  exact ⟨_, by simp [afterExit?, divided, Position.reduce?, subtracted]; rfl⟩

theorem settle?_eq_map (reduced : afterExit? p x fill = some after) :
    e.settle? p x d fill = (e.report? after x fill).map (settled d p after x fill) := by
  simp only [settle?, reduced, Option.bind_eq_bind, Option.bind_some, Option.map_eq_bind]
  rfl

/-- The amounts of a report do not depend on what remains. -/
theorem isSome_report?_afterExit? (reduced : afterExit? p x fill = some after) :
    (e.report? after x fill).isSome = (e.report? p x fill).isSome := by
  have profit : after.profit? = p.profit? := by
    rw [afterExit?_eq reduced]
    rfl
  have price : after.entryPrice = p.entryPrice := by rw [afterExit?_eq reduced]
  unfold report?
  rw [profit, price]
  cases p.profit? fill.quantity fill.price <;>
    cases e.settings.fee? fill.quantity p.entryPrice <;>
    cases e.settings.fee? fill.quantity fill.price <;> rfl

/-! ## The law -/

/-- What holds of a full exit of a position whose order was filled by a share of the quantity at
entry. -/
structure FullExitLaw (d : Desk σ) (p : Position) (fill : Order.Confirmed) (share : Decimal)
    (o : Outcome σ ExitReport) : Prop where
  removed : o.desk.book.find? p.user p.symbol = none ↔ ClosesBy p share
  reported : ∀ report, o.result = .ok report → (report.closed = true ↔ ClosesBy p share)
  noted : ∀ report, o.result = .ok report → report.closed = true →
    o.desk.ledger.positions =
        (d.ledger.mapOpen p.user p.symbol (·.close fill.price)).positions ∧
      ∀ row ∈ o.desk.ledger.positions, row.isOpenFor p.user p.symbol = false
  answered : d.ledger.outages = [] → ∃ report, o.result = .ok report

theorem not_isOpenFor_of_mapOpen {l : Ledger} {price : Decimal} :
    ∀ row ∈ (l.mapOpen user symbol (·.close price)).positions,
      row.isOpenFor user symbol = false := by
  intro row mem
  obtain ⟨before, -, rfl⟩ := List.mem_map.1 mem
  split
  · rfl
  · rename_i missed
    exact Bool.eq_false_iff.2 missed

theorem settled_fullExitLaw (draws : d.DrawsNames) (user : after.user = p.user)
    (symbol : after.symbol = p.symbol) (reported : e.report? after x fill = some report)
    (closes : after.isClosed = true ↔ ClosesBy p share) :
    FullExitLaw d p fill share (settled d p after x fill report) := by
  have same := report?_closed reported
  refine ⟨?_, fun report' answer ↦ ?_, fun report' answer closed ↦ ?_, fun online ↦ ?_⟩
  · obtain ⟨ledger, desk⟩ := settled_desk d p after x fill report
    rw [desk, ← user, ← symbol]
    change (bookAfter d.book after).find? after.user after.symbol = none ↔ _
    rw [find?_bookAfter, ← closes, kept?]
    cases after.isClosed <;> simp
  · obtain ⟨l, l', -, -, rfl, -⟩ := Desk.bookTrade_ok answer
    rw [same]
    exact closes
  · obtain ⟨l, l', recorded, noted, rfl, booked⟩ := Desk.bookTrade_ok answer
    rw [same] at closed
    have ledger : (settled d p after x fill report').desk.ledger =
        l.mapOpen p.user p.symbol (·.close fill.price) := by
      have noted' := noteExit_eq_ok noted
      rw [exitNoted, if_pos closed, user, symbol] at noted'
      rw [settled, booked, ← noted']
      rfl
    rw [ledger]
    refine ⟨?_, not_isOpenFor_of_mapOpen⟩
    rw [Ledger.recordFill_eq_ok recorded]
    rfl
  · exact ⟨report, by rw [settled_of_writable ⟨online, draws⟩]; rfl⟩

/-- A full exit whose order was filled as it was sent. -/
theorem exit?_fullExitLaw (draws : d.DrawsNames) (held : d.book.find? user symbol = some p)
    (sound : IsSound p) (positive : Decimal.zero < p.quantity)
    (ordered : exitOrder? p (fullExit user symbol reason) = some order)
    (divided : Decimal.div? order.quantity p.quantity = some share)
    (answered : d.fill? e.broker order = some (.done d' fill))
    (exact : fill.quantity = order.quantity) :
    ((e.report? p (fullExit user symbol reason) fill).isSome →
      (e.exit? d (fullExit user symbol reason)).isSome) ∧
    ∀ o, e.exit? d (fullExit user symbol reason) = some o → FullExitLaw d p fill share o := by
  have least : 0 ≤ share.value := by
    have above : 0 < p.quantity.value := by simpa using Decimal.lt_iff.1 positive
    exact Decimal.div?_nonneg (fullExit_order_bounds sound ordered).1 above.le divided
  rw [← exact] at divided
  obtain ⟨after, reduced⟩ := afterExit?_defined (x := fullExit user symbol reason) sound
    (filledFraction?_one positive divided)
  have closes := isClosed_iff_closesBy sound positive least divided reduced
  rw [exit?_eq_fill? isFraction_fullExit held ordered, answered]
  change ((e.report? p (fullExit user symbol reason) fill).isSome →
    (e.settle? p (fullExit user symbol reason) d' fill).isSome) ∧
      ∀ o, e.settle? p (fullExit user symbol reason) d' fill = some o → _
  rw [settle?_eq_map reduced, Option.isSome_map, isSome_report?_afterExit? reduced]
  refine ⟨id, fun o settled ↦ ?_⟩
  obtain ⟨report, reported, rfl⟩ := Option.map_eq_some_iff.1 settled
  obtain ⟨ofUser, inSymbol, -⟩ := afterExit?_key reduced
  obtain ⟨market, rfl⟩ := Desk.fill?_desk answered
  obtain ⟨removed, reported, noted, answered⟩ := settled_fullExitLaw
    (d := d.afterOrder order market) draws ofUser inSymbol reported closes
  exact ⟨removed, reported, noted, answered⟩

/-! ## Calls for a full exit -/

/-- Calls for a full exit, as such or forced, whose order is filled as it was sent: at the first
attempt or, after a failure that allows another one, at the second. -/
inductive FilledInFull (e : Engine σ) (d : Desk σ) (user symbol reason : String)
    (order : Order.Request) (fill : Order.Confirmed) : Option (Outcome σ ExitReport) → Prop
  | exited {d' : Desk σ} (answered : d.fill? e.broker order = some (.done d' fill))
      (exact : fill.quantity = order.quantity) :
      FilledInFull e d user symbol reason order fill (e.exit? d (fullExit user symbol reason))
  | forced {d' : Desk σ} (answered : d.fill? e.broker order = some (.done d' fill))
      (exact : fill.quantity = order.quantity) :
      FilledInFull e d user symbol reason order fill (e.forceExit? d user symbol reason)
  | forcedAgain {d' d'' : Desk σ} {error : Error}
      (failed : d.fill? e.broker order = some (.failed d' error))
      (again : error.kind = "broker" ∨ error.kind = "order_rejected")
      (answered : d'.fill? e.broker order = some (.done d'' fill))
      (exact : fill.quantity = order.quantity) :
      FilledInFull e d user symbol reason order fill (e.forceExit? d user symbol reason)

/-- A forced exit whose first order was filled is not tried again. -/
theorem forceExit?_of_filled (held : d.book.find? user symbol = some p)
    (ordered : exitOrder? p (fullExit user symbol reason) = some order)
    (answered : d.fill? e.broker order = some (.done d' fill)) :
    e.forceExit? d user symbol reason = e.exit? d (fullExit user symbol reason) := by
  cases tried : e.exit? d (fullExit user symbol reason) with
  | none => simp [forceExit?, tried]
  | some first =>
    apply (forceExit?_eq_of_exit? tried).2
    rintro ⟨error, failed, kind⟩
    rw [exit?_eq_fill? isFraction_fullExit held ordered, answered] at tried
    change e.settle? p (fullExit user symbol reason) d' fill = some first at tried
    obtain ⟨after, -, tried⟩ := Option.bind_eq_some_iff.1 tried
    obtain ⟨report, -, tried⟩ := Option.bind_eq_some_iff.1 tried
    cases tried
    obtain ⟨failure, rfl⟩ := Desk.bookTrade_error failed
    simp [Error.kind] at kind

/-- A forced exit whose first order failed in a way that allows it is tried again. -/
theorem forceExit?_of_failed {error : Error} (held : d.book.find? user symbol = some p)
    (ordered : exitOrder? p (fullExit user symbol reason) = some order)
    (failed : d.fill? e.broker order = some (.failed d' error))
    (again : error.kind = "broker" ∨ error.kind = "order_rejected") :
    e.forceExit? d user symbol reason = e.exit? d' (fullExit user symbol reason) := by
  have tried : e.exit? d (fullExit user symbol reason) = some (.failed d' error) := by
    rw [exit?_eq_fill? isFraction_fullExit held ordered, failed]
    rfl
  exact (forceExit?_eq_of_exit? tried).1 ⟨error, rfl, again⟩

variable {engine : Engine σ} {market : σ} {killSwitch : KillSwitch} {clock : Instant}
  {events : List (Service.Event σ)} {s : Service σ} {call : Option (Outcome σ ExitReport)}

/-- A full exit whose order is filled as it was sent closes the position exactly if the share that
was filled leaves less than one hundredth of the quantity at entry.  It does so for quantities of at
least 51 units of the eighth digit, and when what is held needs no rounding. -/
theorem full_exit_closes_iff
    (ran : (Service.new engine market killSwitch clock).run? events = some s)
    (held : s.desk.book.find? user symbol = some p) (positive : Decimal.zero < p.quantity)
    (ordered : exitOrder? p (fullExit user symbol reason) = some order)
    (filled : FilledInFull s.engine s.desk user symbol reason order fill call) :
    ∃ share, Decimal.div? order.quantity p.quantity = some share ∧
      (51 / 10 ^ 8 ≤ p.quantity.value → ClosesBy p share) ∧
      (order.quantity.value = p.quantity.value * p.remaining.value → ClosesBy p share) ∧
      ((s.engine.report? p (fullExit user symbol reason) fill).isSome → call.isSome) ∧
      ∀ o, call = some o → FullExitLaw s.desk p fill share o := by
  have desk := Service.run?_isSound (Service.isSound_new engine market killSwitch clock) ran
  have sound := desk.held held
  have draws : s.desk.DrawsNames := by
    apply Service.run?_drawsNames _ ran
    simp [Desk.DrawsNames, Service.new, Desk.new, Ledger.empty]
  have above : 0 < p.quantity.value := by simpa using Decimal.lt_iff.1 positive
  obtain ⟨nonneg, most, least⟩ := fullExit_order_bounds sound ordered
  have range : |order.quantity.value / p.quantity.value| < 10 ^ 9 := by
    have twice : order.quantity.value / p.quantity.value ≤ 2 := (div_le_iff₀ above).2 most
    rw [abs_of_nonneg (by positivity)]
    linarith
  obtain ⟨share, divided⟩ := Decimal.div?_defined above.ne' range
  refine ⟨share, divided, fun usual ↦ ?_, fun unrounded ↦ ?_, ?_⟩
  · apply closesBy_of_short sound above nonneg divided
    linarith
  · apply closesBy_of_short sound above nonneg divided
    rw [unrounded, sub_self]
    exact mul_nonneg above.le (by norm_num)
  · cases filled with
    | exited answered exact =>
      exact exit?_fullExitLaw draws held sound positive ordered divided answered exact
    | forced answered exact =>
      rw [forceExit?_of_filled held ordered answered]
      exact exit?_fullExitLaw draws held sound positive ordered divided answered exact
    | forcedAgain failed again answered exact =>
      rw [forceExit?_of_failed held ordered failed again]
      obtain ⟨market, rfl⟩ := Desk.fill?_desk failed
      obtain ⟨defined, law⟩ := exit?_fullExitLaw (d := s.desk.afterOrder order market) draws held
        sound positive ordered divided answered exact
      refine ⟨defined, fun o exited ↦ ?_⟩
      obtain ⟨removed, reported, noted, answered⟩ := law o exited
      exact ⟨removed, reported, noted, answered⟩

end Engine

/-! ## A position of fifty units -/

/-- An engine whose broker fills every order at 100, a few times. -/
def fillingService : Service Broker.Script.State :=
  let filled := { partialAnswer "filled" with filledVolume := none }
  Service.new rehearsal [.ok filled, .ok filled, .ok filled] (KillSwitch.new none) Instant.epoch

/-- An entry of 0.00005 at 100, for a quantity of 50 units of the eighth digit. -/
def tinyEntry : Entry :=
  ⟨"alice", "BTC-USD", .buy, Decimal.const 5 5, Decimal.const 100 0⟩

/-- The exit of 95 hundredths of it, which sells 48 units. -/
def tinyExit : Call :=
  .exit "alice" "BTC-USD" (Decimal.const 95 2) "part"

/-- A full exit of what the filling service holds after calls: the service, the position, the order,
its fill, and the report of the exit. -/
structure FilledRun where
  service : Service Broker.Script.State
  position : Position
  order : Order.Request
  sent : Desk Broker.Script.State
  fill : Order.Confirmed
  booked : Desk Broker.Script.State
  report : ExitReport

/-- The full exit after calls, if its order is filled and it is booked. -/
def filledRun? (calls : List Call) : Option FilledRun := do
  let s ← fillingService.run? (calls.map .call)
  let p ← s.desk.book.find? "alice" "BTC-USD"
  let order ← Engine.exitOrder? p (Engine.fullExit "alice" "BTC-USD" "all")
  let filled ← s.desk.fill? s.engine.broker order
  let fill ← filled.result.toOption
  let o ← s.engine.exit? s.desk (Engine.fullExit "alice" "BTC-USD" "all")
  let report ← o.result.toOption
  some ⟨s, p, order, filled.desk, fill, o.desk, report⟩

theorem Outcome.eq_done_of_toOption {o : Outcome σ α} {a : α} (h : o.result.toOption = some a) :
    o = .done o.desk a := by
  obtain ⟨desk, result⟩ := o
  cases result with
  | error error => cases h
  | ok value =>
    cases h
    rfl

theorem filledRun?_eq_some {calls : List Call} {r : FilledRun} (h : filledRun? calls = some r) :
    fillingService.run? (calls.map .call) = some r.service ∧
      r.service.desk.book.find? "alice" "BTC-USD" = some r.position ∧
      Engine.exitOrder? r.position (Engine.fullExit "alice" "BTC-USD" "all") = some r.order ∧
      r.service.desk.fill? r.service.engine.broker r.order = some (.done r.sent r.fill) ∧
      r.service.engine.exit? r.service.desk (Engine.fullExit "alice" "BTC-USD" "all") =
        some (.done r.booked r.report) := by
  obtain ⟨s, ran, h⟩ := Option.bind_eq_some_iff.1 h
  obtain ⟨p, held, h⟩ := Option.bind_eq_some_iff.1 h
  obtain ⟨order, ordered, h⟩ := Option.bind_eq_some_iff.1 h
  obtain ⟨filled, answered, h⟩ := Option.bind_eq_some_iff.1 h
  obtain ⟨fill, confirmed, h⟩ := Option.bind_eq_some_iff.1 h
  obtain ⟨o, exited, h⟩ := Option.bind_eq_some_iff.1 h
  obtain ⟨report, reported, h⟩ := Option.bind_eq_some_iff.1 h
  cases h
  rw [Outcome.eq_done_of_toOption confirmed] at answered
  rw [Outcome.eq_done_of_toOption reported] at exited
  exact ⟨ran, held, ordered, answered, exited⟩

/-- A full exit whose order was filled as it was sent can leave the position open: the two and a
half units that remain are rounded to two, and one hundredth stays although all 50 were sold. -/
theorem filled_full_exit_can_stay_open : ∃ s p order d' fill d'' report,
    fillingService.run? [.call (.enter tinyEntry), .call tinyExit] = some s ∧
      s.desk.book.find? "alice" "BTC-USD" = some p ∧ Decimal.zero < p.quantity ∧
      Engine.exitOrder? p (Engine.fullExit "alice" "BTC-USD" "all") = some order ∧
      s.desk.fill? s.engine.broker order = some (.done d' fill) ∧
      fill.quantity = order.quantity ∧ Decimal.zero < order.quantity ∧
      s.engine.exit? s.desk (Engine.fullExit "alice" "BTC-USD" "all") =
        some (.done d'' report) ∧
      report.closed = false ∧ (d''.book.find? "alice" "BTC-USD").isSome ∧
      ∃ row ∈ d''.ledger.positions, row.isOpenFor "alice" "BTC-USD" = true := by
  have ends : (filledRun? [.enter tinyEntry, tinyExit]).any (fun r ↦
      decide (Decimal.zero < r.position.quantity ∧ r.fill.quantity = r.order.quantity ∧
        Decimal.zero < r.order.quantity ∧ r.report.closed = false ∧
        (r.booked.book.find? "alice" "BTC-USD").isSome = true ∧
        ∃ row ∈ r.booked.ledger.positions, row.isOpenFor "alice" "BTC-USD" = true)) = true := by
    decide +kernel
  obtain ⟨r, happened, ends⟩ := (Option.any_eq_true _ _).1 ends
  obtain ⟨ran, held, ordered, answered, exited⟩ := filledRun?_eq_some happened
  obtain ⟨positive, exact, sold, unclosed, kept, row⟩ := of_decide_eq_true ends
  exact ⟨_, _, _, _, _, _, _, ran, held, positive, ordered, answered, exact, sold, exited, unclosed,
    kept, row⟩

/-- A full exit of a quantity of one closes its position. -/
theorem full_exit_closes_iff_one : ∃ s p o,
    fillingService.run? [.call (.enter slippingEntry)] = some s ∧
      s.desk.book.find? "alice" "BTC-USD" = some p ∧
      s.engine.exit? s.desk (Engine.fullExit "alice" "BTC-USD" "all") = some o ∧
      o.desk.book.find? "alice" "BTC-USD" = none := by
  have ends : (filledRun? [.enter slippingEntry]).any (fun r ↦
      decide (Decimal.const 51 8 ≤ r.position.quantity ∧ r.fill.quantity = r.order.quantity)) =
        true := by
    decide +kernel
  obtain ⟨r, happened, ends⟩ := (Option.any_eq_true _ _).1 ends
  obtain ⟨ran, held, ordered, answered, exited⟩ := filledRun?_eq_some happened
  obtain ⟨usual, exact⟩ := of_decide_eq_true ends
  rw [Decimal.le_iff, Decimal.value_const (by decide) (by decide)] at usual
  have usual : 51 / 10 ^ 8 ≤ r.position.quantity.value := by exact_mod_cast usual
  have positive : Decimal.zero < r.position.quantity := by
    rw [Decimal.lt_iff, Decimal.value_zero]
    exact lt_of_lt_of_le (by norm_num) usual
  obtain ⟨share, -, closes, -, -, law⟩ := Engine.full_exit_closes_iff ran held positive ordered
    (.exited answered exact)
  have removed := (law _ exited).removed.2 (closes usual)
  obtain ⟨user, symbol⟩ := Book.of_find?_eq_some held
  rw [user, symbol] at removed
  exact ⟨_, _, _, ran, held, exited, removed⟩

end TradingDesk.Execution
