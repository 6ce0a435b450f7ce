import TradingDesk.Proofs.Decimal.FractionDigits
import TradingDesk.Proofs.Execution.FullExit
import TradingDesk.Proofs.Execution.Orders

/-!
# Quantities of Orders

Every order is sent for an entry, for an exit, or to give back a fill whose price slipped.  The
first two are for an amount that is rounded to eight fraction digits: the size of the entry over its
price, or a share of the quantity of a position.  What is asked for is checked to be positive, but
the rounded amount is not, and it is zero when the amount is at most half a unit of the eighth digit.
A fill is given back as it was confirmed, which is never less than zero, and is zero only if the
order of the entry was.
-/

namespace TradingDesk

namespace Order

variable {r : Response} {requested quantity : Decimal}

/-- Whether a response names a positive filled amount, as its volume or by its fills. -/
def Response.NamesAmount (r : Response) : Prop :=
  (∃ volume, r.filledVolume = some volume ∧ Decimal.zero < volume) ∨
    ∃ total, filledTotal? r.fills = some total ∧ Decimal.zero < total

/-- A confirmed quantity is positive when the response names a positive amount or the order was for
one. -/
theorem zero_lt_fillQuantity?_iff (h : fillQuantity? r requested = some quantity) :
    Decimal.zero < quantity ↔ r.NamesAmount ∨ Decimal.zero < requested := by
  unfold fillQuantity? at h
  split at h
  · rename_i volume reported
    obtain rfl := Option.some.inj h
    obtain ⟨named, positive⟩ := Option.filter_eq_some_iff.1 reported
    have positive : Decimal.zero < volume := by simpa [Decimal.isPositive] using positive
    exact iff_of_true positive (.inl (.inl ⟨volume, named, positive⟩))
  · rename_i unreported
    obtain ⟨total, added, h⟩ := Option.bind_eq_some_iff.1 h
    obtain rfl := Option.some.inj h
    split
    · rename_i positive
      exact iff_of_true positive (.inl (.inr ⟨total, added, positive⟩))
    · rename_i low
      refine (or_iff_right ?_).symm
      rintro (⟨volume, named, positive⟩ | ⟨total', added', positive⟩)
      · simp [named, Option.filter_some, Decimal.isPositive, positive] at unreported
      · obtain rfl := Option.some.inj (added.symm.trans added')
        exact low positive

end Order

namespace Execution

variable {σ : Type} {e : Engine σ} {d : Desk σ} {levels : Nat} {amount : Decimal}

/-- Whether there is an amount, and it is above half a unit of the eighth digit. -/
def ExceedsHalfUnit (amount? : Option Decimal) : Prop :=
  ∃ amount, amount? = some amount ∧ 1 / 2 / 10 ^ 8 < amount.value

/-- Whether what an order is for is enough for a positive quantity. -/
def Purpose.IsEnough : Purpose → Prop
  | .entry asked => ExceedsHalfUnit (Decimal.div? asked.size asked.price)
  | .exit p x => ExceedsHalfUnit (p.exitQuantity? x.fraction)
  | .giveBack asked answer =>
    answer.NamesAmount ∨ ExceedsHalfUnit (Decimal.div? asked.size asked.price)

/-- Whether an order is for no less than zero, and for more exactly if its purpose is enough. -/
structure Sent.IsMeasured (s : Sent) : Prop where
  nonneg : Decimal.zero ≤ s.request.quantity
  positive : Decimal.zero < s.request.quantity ↔ s.purpose.IsEnough

/-! ## Orders of single operations -/

theorem exceedsHalfUnit_some : ExceedsHalfUnit (some amount) ↔ 1 / 2 / 10 ^ 8 < amount.value := by
  simp [ExceedsHalfUnit]

/-- What is left of an amount when it is rounded. -/
theorem round_eight (nonneg : 0 ≤ amount.value) : Decimal.zero ≤ amount.round 8 ∧
    (Decimal.zero < amount.round 8 ↔ ExceedsHalfUnit (some amount)) := by
  rw [exceedsHalfUnit_some, Decimal.le_iff, Decimal.value_zero]
  exact ⟨Decimal.round_nonneg nonneg 8, Decimal.zero_lt_round_iff nonneg⟩

namespace Engine

/-- An entry that is not turned away has a positive size and a positive price. -/
theorem zero_lt_of_not_bars {entry : Entry} (passed : ¬e.Bars d entry) :
    Decimal.zero < entry.size ∧ Decimal.zero < entry.price :=
  ⟨Decimal.not_le.1 fun low ↦ passed (.inr (.inr (.inr (.inl low)))),
    Decimal.not_le.1 fun low ↦ passed (.inr (.inr (.inl low)))⟩

/-- The quantity of an entry is what its size and its price leave of it. -/
theorem entryOrder?_measured {entry : Entry} {order : Order.Request} (passed : ¬e.Bars d entry)
    (ordered : entryOrder? entry = some order) : Decimal.zero ≤ order.quantity ∧
      (Decimal.zero < order.quantity ↔
        ExceedsHalfUnit (Decimal.div? entry.size entry.price)) := by
  obtain ⟨amount, divided, ordered⟩ := Option.bind_eq_some_iff.1 ordered
  cases ordered
  obtain ⟨sized, priced⟩ := zero_lt_of_not_bars passed
  rw [Decimal.lt_iff, Decimal.value_zero] at sized priced
  rw [divided]
  exact round_eight (Decimal.div?_nonneg sized.le priced.le divided)

/-- The quantity of an exit is what the share of its position leaves of it. -/
theorem exitOrder?_measured {p : Position} {x : Exit} {order : Order.Request} (sound : IsSound p)
    (inside : IsFraction x.fraction) (ordered : exitOrder? p x = some order) :
    Decimal.zero ≤ order.quantity ∧
      (Decimal.zero < order.quantity ↔ ExceedsHalfUnit (p.exitQuantity? x.fraction)) := by
  obtain ⟨amount, multiplied, ordered⟩ := Option.bind_eq_some_iff.1 ordered
  cases ordered
  rw [multiplied]
  apply round_eight
  refine Decimal.mul?_nonneg sound.nonneg ?_ multiplied
  rw [Decimal.value_min]
  exact (share_bounds sound.hasShare inside).1

theorem giveBack?_eq_some {entry : Entry} {order : Order.Request} {sent : Sent}
    (h : e.giveBack? d entry order = some sent) :
    ∃ response fill, Order.confirm? response order.symbol order.quantity = some (.ok fill) ∧
      sent = ⟨⟨entry.symbol, entry.side.opposite, fill.quantity⟩, .giveBack entry response⟩ := by
  obtain ⟨⟨answer, market⟩, -, h⟩ := Option.bind_eq_some_iff.1 h
  obtain ⟨response, -, h⟩ := Option.bind_eq_some_iff.1 h
  obtain ⟨checked, confirmed, h⟩ := Option.bind_eq_some_iff.1 h
  obtain ⟨fill', filled, h⟩ := Option.bind_eq_some_iff.1 h
  obtain ⟨slippage, -, h⟩ := Option.bind_eq_some_iff.1 h
  cases checked with
  | error refusal => cases filled
  | ok fill =>
    obtain rfl : fill = fill' := Option.some.inj filled
    split at h
    · exact ⟨response, fill, confirmed, (Option.some.inj h).symm⟩
    · cases h

theorem entryOrders_measured {entry : Entry} : ∀ sent ∈ e.entryOrders d entry, sent.IsMeasured := by
  intro sent mem
  unfold entryOrders at mem
  split at mem
  · rename_i order screened ordered
    obtain ⟨nonneg, positive⟩ := entryOrder?_measured (screen_eq_ok_iff.1 screened) ordered
    rcases List.mem_cons.1 mem with rfl | back
    · exact ⟨nonneg, positive⟩
    · obtain ⟨response, fill, confirmed, rfl⟩ := giveBack?_eq_some (Option.mem_toList.1 back)
      obtain ⟨-, -, filled⟩ := Order.confirm?_eq_ok confirmed
      constructor
      · rw [Decimal.le_iff]
        rcases Order.fillQuantity?_cases filled with named | asked
        · exact (Decimal.lt_iff.1 named).le
        · rw [asked]
          exact Decimal.le_iff.1 nonneg
      · exact (Order.zero_lt_fillQuantity?_iff filled).trans (or_congr_right positive)
  · cases mem

theorem exitOrders_measured {x : Exit} (s : d.IsSound levels) :
    ∀ sent ∈ exitOrders d x, sent.IsMeasured := by
  intro sent mem
  unfold exitOrders at mem
  split at mem
  · cases mem
  · rename_i inside
    rw [← not_isFraction, not_not] at inside
    split at mem
    · cases mem
    · rename_i p held
      obtain ⟨order, ordered, rfl⟩ := Option.map_eq_some_iff.1 (Option.mem_toList.1 mem)
      obtain ⟨nonneg, positive⟩ := exitOrder?_measured (s.held held) inside ordered
      exact ⟨nonneg, positive⟩

/-- The orders of a call on a sound desk are measured, also when the call ends in a fault. -/
theorem orders_measured {call : Call} (s : d.IsSound levels) :
    ∀ sent ∈ e.orders d call, sent.IsMeasured := by
  cases call with
  | enter entry => exact entryOrders_measured
  | exit | forceExit | takeSteps | check =>
    intro sent mem
    obtain ⟨⟨found, x⟩, listed, mem⟩ := List.mem_flatMap.1 mem
    obtain ⟨sound, -⟩ := forall_mem_tries exit?_isSound s _ listed
    exact exitOrders_measured sound sent mem

end Engine

/-! ## Orders of an engine in service -/

namespace Service

theorem orders_measured {s : Service σ} (sound : s.IsSound) (events : List (Event σ)) :
    ∀ sent ∈ s.orders events, sent.IsMeasured := by
  induction events generalizing s with
  | nil => simp [orders]
  | cons event later ih =>
    intro sent mem
    rcases List.mem_append.1 mem with now | late
    · cases event with
      | call call => exact Engine.orders_measured sound sent now
      | restore | restart | meanwhile | outage => cases now
    · split at late
      · cases late
      · rename_i s' happened
        exact ih (step?_isSound sound happened) sent late

/-- The orders on the desk of an engine in service are those of its events, each sent for the entry
that was called for, for the exit of a position that was held, or for the fill that an answer of the
broker confirmed.  Also in a run that ends in a fault, none is for less than zero.  The order of an
entry is for zero exactly if its size over its price is at most half a unit of the eighth digit,
that of an exit exactly if its share of the position is, and one that gives a fill back exactly if
the entry was for zero and the answer names no amount. -/
theorem order_quantities (engine : Engine σ) (market : σ) (killSwitch : KillSwitch)
    (clock : Instant) (events : List (Event σ)) :
    (∀ s, (new engine market killSwitch clock).run? events = some s →
        s.desk.sent = ((new engine market killSwitch clock).orders events).map (·.request)) ∧
      ∀ sent ∈ (new engine market killSwitch clock).orders events,
        Decimal.zero ≤ sent.request.quantity ∧
          (Decimal.zero < sent.request.quantity ↔ sent.purpose.IsEnough) := by
  constructor
  · intro s ran
    exact run?_sent ran
  · intro sent mem
    obtain ⟨nonneg, positive⟩ :=
      orders_measured (isSound_new engine market killSwitch clock) events sent mem
    exact ⟨nonneg, positive⟩

end Service

/-! ## An entry of a tenth of a unit -/

/-- An entry of 0.0000001 at 100, for a tenth of a unit of the eighth digit. -/
def emptyEntry : Entry :=
  ⟨"alice", "BTC-USD", .buy, Decimal.const 1 7, Decimal.const 100 0⟩

/-- An entry that passes every check can send an order for nothing, and open a position of it. -/
theorem order_can_be_empty : ∃ s order p,
    fillingService.run? [.call (.enter emptyEntry)] = some s ∧ order ∈ s.desk.sent ∧
      ¬Decimal.zero < order.quantity ∧ s.desk.book.find? "alice" "BTC-USD" = some p ∧
      ¬Decimal.zero < p.quantity := by
  have ends : ((fillingService.run? [.call (.enter emptyEntry)]).bind fun s ↦
      (s.desk.book.find? "alice" "BTC-USD").map fun p ↦
        decide ((∃ order ∈ s.desk.sent, ¬Decimal.zero < order.quantity) ∧
          ¬Decimal.zero < p.quantity)) = some true := by
    decide +kernel
  obtain ⟨s, ran, ends⟩ := Option.bind_eq_some_iff.1 ends
  obtain ⟨p, held, ends⟩ := Option.map_eq_some_iff.1 ends
  obtain ⟨⟨order, sent, empty⟩, nothing⟩ := of_decide_eq_true ends
  exact ⟨s, order, p, ran, sent, empty, held, nothing⟩

/-- The orders of an entry for one and of the exit of all of it. -/
theorem order_quantities_roundTrip : ∃ s, ∃ entered exited : Sent,
    fillingService.run? [.call (.enter slippingEntry),
      .call (.forceExit "alice" "BTC-USD" "stop")] = some s ∧
      s.desk.sent = [entered.request, exited.request] ∧ exited.request.side = .sell ∧
      entered.purpose.IsEnough ∧ exited.purpose.IsEnough := by
  have ends : (fillingService.run? [.call (.enter slippingEntry),
      .call (.forceExit "alice" "BTC-USD" "stop")]).any (fun s ↦
        decide (s.desk.sent.map (·.side) = [.buy, .sell] ∧
          ∀ order ∈ s.desk.sent, Decimal.zero < order.quantity)) = true := by
    decide +kernel
  obtain ⟨s, ran, ends⟩ := (Option.any_eq_true _ _).1 ends
  obtain ⟨sides, positive⟩ := of_decide_eq_true ends
  obtain ⟨listed, quantities⟩ := Service.order_quantities rehearsal fillingService.desk.market
    fillingService.desk.killSwitch fillingService.desk.clock
    [.call (.enter slippingEntry), .call (.forceExit "alice" "BTC-USD" "stop")]
  have own := listed s ran
  rw [own, List.map_map] at sides
  rw [own] at positive
  obtain ⟨entered, rest, orders, -, others⟩ := List.map_eq_cons_iff.1 sides
  obtain ⟨exited, none, rfl, sold, last⟩ := List.map_eq_cons_iff.1 others
  obtain rfl := List.map_eq_nil_iff.1 last
  rw [orders] at own positive quantities
  refine ⟨s, entered, exited, ran, own, sold, ?_, ?_⟩
  · exact (quantities entered (by simp)).2.1 (positive _ (by simp))
  · exact (quantities exited (by simp)).2.1 (positive _ (by simp))

end Execution

end TradingDesk
