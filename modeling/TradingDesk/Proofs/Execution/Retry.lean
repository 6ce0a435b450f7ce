import TradingDesk.Proofs.Execution.Gate
import TradingDesk.Proofs.Order.Confirmation

/-!
# Forced Exits That Sell Twice

A forced exit is tried once more when the first attempt failed on the connection or was turned down,
and an answer turns an order down by its error text or by a status other than that of a live or
completed order.  Such an answer can report a fill all the same: a broker names the order and the
volume of it that was filled, beside a status of its own or an error about the rest.  The second
attempt then orders the whole position again.
-/

namespace TradingDesk

namespace Order

/-! ## Answers that report a fill -/

/-- Whether a response names an order and a volume of it that was filled. -/
def Response.ReportsFill (r : Response) : Prop :=
  r.reference?.isSome ∧ ∃ volume, r.filledVolume = some volume ∧ Decimal.zero < volume

/-- Whether a response lets an order stand: it has no error text, and a status of a live or
completed order. -/
def Response.LetsStand (r : Response) : Prop :=
  r.errorMessage? = none ∧ ∃ status ∈ acceptedStatuses, r.normalizedStatus? = some status

variable {r : Response} {symbol : String} {requested : Decimal} {refusal : Refusal}

/-- A named response that lets its order stand is identified, or it is about another symbol. -/
theorem identify_of_letsStand (symbol : String) (named : r.reference?.isSome)
    (stands : r.LetsStand) :
    (∃ identified, identify r symbol = .ok identified) ∨
      ∃ actual, identify r symbol = .error (.wrongSymbol symbol actual) := by
  obtain ⟨reference, named⟩ := Option.isSome_iff_exists.1 named
  obtain ⟨quiet, status, accepted, stated⟩ := stands
  cases about : r.symbol with
  | none =>
    refine .inl ⟨(reference, status), ?_⟩
    simp [identify, quiet, stated, not_mem_failedStatuses accepted, named, accepted, about]
    rfl
  | some actual =>
    by_cases same : normalizeSymbol actual = normalizeSymbol symbol
    · refine .inl ⟨(reference, status), ?_⟩
      simp [identify, quiet, stated, not_mem_failedStatuses accepted, named, accepted, about, same]
      rfl
    · refine .inr ⟨actual, ?_⟩
      simp [identify, quiet, stated, not_mem_failedStatuses accepted, named, accepted, about, same]
      rfl

/-- A named response that does not let its order stand turns it down. -/
theorem identify_of_not_letsStand (symbol : String) (named : r.reference?.isSome)
    (falls : ¬r.LetsStand) :
    ∃ refusal, identify r symbol = .error refusal ∧ refusal.isRejection = true := by
  obtain ⟨reference, named⟩ := Option.isSome_iff_exists.1 named
  cases broken : r.errorMessage? with
  | some text => exact ⟨.brokerError text, by simp [identify, broken]; rfl, rfl⟩
  | none =>
    cases stated : r.normalizedStatus? with
    | none => exact ⟨.missingStatus, by simp [identify, broken, stated, named]; rfl, rfl⟩
    | some status =>
      by_cases failed : status ∈ failedStatuses
      · exact ⟨.failedStatus status, by simp [identify, broken, stated, failed]; rfl, rfl⟩
      · have unexpected : status ∉ acceptedStatuses :=
          fun accepted ↦ falls ⟨broken, status, accepted, stated⟩
        refine ⟨.unexpectedStatus status, ?_, rfl⟩
        simp [identify, broken, stated, failed, named, unexpected]
        rfl

/-- A price that is refused does not turn the order down. -/
theorem isRejection_of_fillPrice? (h : fillPrice? r = some (.error refusal)) :
    refusal.isRejection = false := by
  obtain ⟨candidate, -, h⟩ := Option.bind_eq_some_iff.1 h
  cases candidate with
  | none =>
    cases h
    rfl
  | some price =>
    dsimp only at h
    split at h
    · cases h
    · cases h
      rfl

/-- What is refused of a named response that lets its order stand is not turned down. -/
theorem isRejection_of_letsStand (named : r.reference?.isSome) (stands : r.LetsStand)
    (refused : confirm? r symbol requested = some (.error refusal)) :
    refusal.isRejection = false := by
  unfold confirm? at refused
  obtain ⟨⟨reference, status⟩, identified⟩ | ⟨actual, mistaken⟩ :=
    identify_of_letsStand symbol named stands
  · rw [identified] at refused
    obtain ⟨priced, price, refused⟩ := Option.bind_eq_some_iff.1 refused
    cases priced with
    | error reason =>
      cases refused
      exact isRejection_of_fillPrice? price
    | ok amount =>
      obtain ⟨quantity, -, refused⟩ := Option.bind_eq_some_iff.1 refused
      cases refused
  · rw [mistaken] at refused
    cases refused
    rfl

end Order

namespace Execution

variable {σ : Type} {e : Engine σ} {d : Desk σ} {user symbol reason : String} {p : Position}
  {order : Order.Request} {answer : Order.Response} {market : σ}

namespace Engine

/-- An exit of a held position sends the order of the exit and no other. -/
theorem sent_exit? {x : Exit} {o : Outcome σ ExitReport} (inside : IsFraction x.fraction)
    (held : d.book.find? x.user x.symbol = some p) (ordered : exitOrder? p x = some order)
    (h : e.exit? d x = some o) : o.desk.sent = d.sent ++ [order] := by
  cases exit?_step h with
  | invalid outside => exact absurd inside outside
  | absent inside unheld => rw [held] at unheld; cases unheld
  | unfilled inside held' ordered' answered =>
    obtain rfl := Option.some.inj (held.symm.trans held')
    obtain rfl := Option.some.inj (ordered.symm.trans ordered')
    obtain ⟨market, rfl⟩ := Desk.fill?_desk answered
    rfl
  | filled inside held' ordered' answered reduced reported =>
    obtain rfl := Option.some.inj (held.symm.trans held')
    obtain rfl := Option.some.inj (ordered.symm.trans ordered')
    obtain ⟨market, rfl⟩ := Desk.fill?_desk answered
    rw [settled, Desk.bookTrade_desk]
    rfl

theorem isFraction_fullExit : IsFraction (fullExit user symbol reason).fraction := by
  change IsFraction Decimal.one
  unfold IsFraction
  decide

/-- An exit does not fail in a way that allows another attempt, when its order was let stand. -/
theorem isRetryable_of_letsStand {x : Exit} {o : Outcome σ ExitReport} {error : Error}
    (held : d.book.find? x.user x.symbol = some p) (ordered : exitOrder? p x = some order)
    (placed : e.broker.place d.market order = some (.ok answer, market))
    (named : answer.reference?.isSome) (stands : answer.LetsStand)
    (h : e.exit? d x = some o) (failed : o.result = .error error) : error.isRetryable = false := by
  cases exit?_step h with
  | invalid | absent =>
    cases failed
    rfl
  | unfilled inside held' ordered' answered =>
    cases failed
    obtain rfl := Option.some.inj (held.symm.trans held')
    obtain rfl := Option.some.inj (ordered.symm.trans ordered')
    generalize ended : Outcome.failed _ _ = o at answered
    cases Desk.fill?_step answered with
    | unreachable placed' =>
      rw [placed] at placed'
      cases placed'
    | refused placed' refused =>
      rw [placed] at placed'
      cases placed'
      cases ended
      exact Order.isRejection_of_letsStand named stands refused
    | confirmed => cases ended
  | filled =>
    obtain ⟨failure, rfl⟩ := Desk.bookTrade_error failed
    rfl

/-- After an answer that lets the order stand, the first attempt is the only one. -/
theorem forceExit?_of_letsStand (held : d.book.find? user symbol = some p)
    (ordered : exitOrder? p (fullExit user symbol reason) = some order)
    (placed : e.broker.place d.market order = some (.ok answer, market))
    (named : answer.reference?.isSome) (stands : answer.LetsStand) :
    e.forceExit? d user symbol reason = e.exit? d (fullExit user symbol reason) := by
  unfold forceExit?
  cases exited : e.exit? d (fullExit user symbol reason) with
  | none => rfl
  | some first =>
    cases ended : first.result with
    | ok report => simp [ended]
    | error error =>
      simp [ended, isRetryable_of_letsStand held ordered placed named stands exited ended]

/-- After an answer that turns the order down, there is a second attempt. -/
theorem forceExit?_of_not_letsStand (held : d.book.find? user symbol = some p)
    (ordered : exitOrder? p (fullExit user symbol reason) = some order)
    (placed : e.broker.place d.market order = some (.ok answer, market))
    (named : answer.reference?.isSome) (falls : ¬answer.LetsStand) :
    e.forceExit? d user symbol reason =
      e.exit? (d.afterOrder order market) (fullExit user symbol reason) := by
  obtain ⟨refusal, refused, down⟩ :=
    Order.identify_of_not_letsStand order.symbol named falls
  have answered : d.fill? e.broker order =
      some (.failed (d.afterOrder order market) (.refused refusal)) := by
    simp [Desk.fill?, placed, Order.confirm?, refused]
    rfl
  have first : e.exit? d (fullExit user symbol reason) =
      some (.failed (d.afterOrder order market) (.refused refusal)) := by
    unfold exit?
    rw [if_neg (not_isFraction.not_right.1 isFraction_fullExit)]
    have held : d.book.find? (fullExit user symbol reason).user
      (fullExit user symbol reason).symbol = some p := held
    simp [held, ordered, answered, Outcome.andThen?, Outcome.failed]
  unfold forceExit?
  rw [first]
  simp [Outcome.failed, Error.isRetryable, down]

/-- When the first answer to a forced exit reports a fill, the exit ends there if the answer lets
the order stand; otherwise it is an exit tried anew, and the same order goes out a second time. -/
theorem forced_exit_sells_once_iff_letsStand (held : d.book.find? user symbol = some p)
    (ordered : exitOrder? p (fullExit user symbol reason) = some order)
    (placed : e.broker.place d.market order = some (.ok answer, market))
    (reports : answer.ReportsFill) :
    (answer.LetsStand →
      e.forceExit? d user symbol reason = e.exit? d (fullExit user symbol reason) ∧
      ∀ o, e.forceExit? d user symbol reason = some o → o.desk.sent = d.sent ++ [order]) ∧
    (¬answer.LetsStand →
      e.forceExit? d user symbol reason =
        e.exit? (d.afterOrder order market) (fullExit user symbol reason) ∧
      ∀ o, e.forceExit? d user symbol reason = some o →
        o.desk.sent = d.sent ++ [order, order]) := by
  refine ⟨fun stands ↦ ?_, fun falls ↦ ?_⟩
  · have once := forceExit?_of_letsStand held ordered placed reports.1 stands
    refine ⟨once, fun o forced ↦ ?_⟩
    rw [once] at forced
    exact sent_exit? isFraction_fullExit held ordered forced
  · have again := forceExit?_of_not_letsStand held ordered placed reports.1 falls
    refine ⟨again, fun o forced ↦ ?_⟩
    rw [again] at forced
    have sent : o.desk.sent = (d.sent ++ [order]) ++ [order] :=
      sent_exit? (d := d.afterOrder order market) isFraction_fullExit held ordered forced
    rw [sent, List.append_assoc]
    rfl

end Engine

/-! ## A partial fill under a status of its own -/

/-- The answer of a broker that filled four tenths at 100, under a status. -/
def partialAnswer (status : String) : Order.Response :=
  { Order.Response.empty with
    status := some status
    orderId := some "partial"
    filledVolume := some (Decimal.const 4 1)
    averageFilledPrice := some (Decimal.const 100 0) }

theorem reportsFill_partialAnswer (status : String) : (partialAnswer status).ReportsFill := by
  have named : (partialAnswer "").reference?.isSome := by decide +kernel
  exact ⟨named, Decimal.const 4 1, rfl, by decide +kernel⟩

/-- A desk whose broker fills an entry of 100 at 100, and then two exits in part, the first of them
under a status. -/
def partialDesk (status : String) : Desk Broker.Script.State :=
  let entered := { partialAnswer "filled" with filledVolume := none }
  Desk.new [.ok entered, .ok (partialAnswer status), .ok (partialAnswer "filled")]
    (KillSwitch.new none) Instant.epoch

/-- The order that closes a position of 1 bought in the symbol. -/
def closingOrder : Order.Request :=
  ⟨"BTC-USD", .sell, Decimal.one⟩

/-- After the entry the order that closes its position gets the answer under the status. -/
theorem partialDesk_entered {status : String} (mem : status ∈ ["filled", "partially_filled"]) :
    ∃ o p, rehearsal.enter? (partialDesk status) slippingEntry = some o ∧
      o.desk.book.find? "alice" "BTC-USD" = some p ∧
      Engine.exitOrder? p (Engine.fullExit "alice" "BTC-USD" "stop") = some closingOrder ∧
      rehearsal.broker.place o.desk.market closingOrder =
        some (.ok (partialAnswer status), [.ok (partialAnswer "filled")]) := by
  have closes : ∀ status ∈ ["filled", "partially_filled"],
      ((rehearsal.enter? (partialDesk status) slippingEntry).bind fun o ↦
        (o.desk.book.find? "alice" "BTC-USD").bind fun p ↦
          Engine.exitOrder? p (Engine.fullExit "alice" "BTC-USD" "stop")) =
        some closingOrder := by
    decide +kernel
  have left : ∀ status ∈ ["filled", "partially_filled"],
      (rehearsal.enter? (partialDesk status) slippingEntry).map (·.desk.market) =
        some [.ok (partialAnswer status), .ok (partialAnswer "filled")] := by
    decide +kernel
  obtain ⟨o, entered, closes⟩ := Option.bind_eq_some_iff.1 (closes status mem)
  obtain ⟨p, held, ordered⟩ := Option.bind_eq_some_iff.1 closes
  have left := left status mem
  rw [entered, Option.map_some, Option.some.injEq] at left
  refine ⟨o, p, entered, held, ordered, ?_⟩
  rw [left]
  rfl

/-- A forced exit can sell a position twice, although the first answer reports a fill. -/
theorem forced_exit_can_sell_twice : ∃ o p forced,
    rehearsal.enter? (partialDesk "partially_filled") slippingEntry = some o ∧
      o.desk.book.find? "alice" "BTC-USD" = some p ∧
      Engine.exitOrder? p (Engine.fullExit "alice" "BTC-USD" "stop") = some closingOrder ∧
      rehearsal.broker.place o.desk.market closingOrder =
        some (.ok (partialAnswer "partially_filled"), [.ok (partialAnswer "filled")]) ∧
      (partialAnswer "partially_filled").ReportsFill ∧
      rehearsal.forceExit? o.desk "alice" "BTC-USD" "stop" = some forced ∧
      forced.desk.sent = o.desk.sent ++ [closingOrder, closingOrder] := by
  have ended : ((rehearsal.enter? (partialDesk "partially_filled") slippingEntry).bind fun o ↦
      (rehearsal.forceExit? o.desk "alice" "BTC-USD" "stop").map fun forced ↦
        decide (forced.desk.sent = o.desk.sent ++ [closingOrder, closingOrder])) = some true := by
    decide +kernel
  obtain ⟨o, p, entered, held, ordered, placed⟩ :=
    partialDesk_entered (by decide : "partially_filled" ∈ _)
  rw [entered, Option.bind_some] at ended
  obtain ⟨forced, tried, twice⟩ := Option.map_eq_some_iff.1 ended
  exact ⟨o, p, forced, entered, held, ordered, placed, reportsFill_partialAnswer _, tried,
    of_decide_eq_true twice⟩

/-- The same fill under an accepted status ends the forced exit. -/
theorem forced_exit_sells_once_iff_letsStand_filled : ∃ o,
    rehearsal.enter? (partialDesk "filled") slippingEntry = some o ∧
      (partialAnswer "filled").LetsStand ∧
      rehearsal.forceExit? o.desk "alice" "BTC-USD" "stop" =
        rehearsal.exit? o.desk (Engine.fullExit "alice" "BTC-USD" "stop") := by
  obtain ⟨o, p, entered, held, ordered, placed⟩ := partialDesk_entered (by decide : "filled" ∈ _)
  have stands : (partialAnswer "filled").LetsStand := by
    refine ⟨by decide +kernel, "filled", by decide, by decide +kernel⟩
  obtain ⟨once, -⟩ := (Engine.forced_exit_sells_once_iff_letsStand held ordered placed
    (reportsFill_partialAnswer "filled")).1 stands
  exact ⟨o, entered, stands, once⟩

end Execution

end TradingDesk
