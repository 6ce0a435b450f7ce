import TradingDesk.Proofs.Execution.Tries

/-!
# Orders of a Run

An order is sent for an entry that passed its checks, for an exit of a position that is held, or to
give back a fill whose price slipped.  The orders of a run are listed here with what they are for:
the entry that was called for, the position that the exit found in the book with what was asked of
it, or the answer of the broker that confirmed the fill.

The list is that of the orders on the desk.  When a run ends in a fault, there is no desk, but the
orders that were sent until then are listed all the same.
-/

namespace TradingDesk.Execution

variable {σ : Type}

/-- What an order is for. -/
inductive Purpose where
  | entry (entry : Entry)
  | exit (p : Position) (x : Engine.Exit)
  | giveBack (entry : Entry) (answer : Order.Response)

/-- An order with what it is for. -/
structure Sent where
  request : Order.Request
  purpose : Purpose

namespace Engine

variable {e : Engine σ} {d d' : Desk σ}

/-! ## Orders of single operations -/

/-- The order that gives back the fill of an entry, if the broker confirmed one that slipped too
far. -/
def giveBack? (e : Engine σ) (d : Desk σ) (entry : Entry) (order : Order.Request) :
    Option Sent := do
  let (answer, _) ← e.broker.place d.market order
  let response ← answer.toOption
  let checked ← Order.confirm? response order.symbol order.quantity
  let fill ← checked.toOption
  let slippage ← slippage? entry.side entry.price fill.price
  if e.settings.maxSlippage < slippage then
    some ⟨⟨entry.symbol, entry.side.opposite, fill.quantity⟩, .giveBack entry response⟩
  else
    none

/-- The orders of an entry. -/
def entryOrders (e : Engine σ) (d : Desk σ) (entry : Entry) : List Sent :=
  match e.screen d entry, entryOrder? entry with
  | .ok (), some order => ⟨order, .entry entry⟩ :: (e.giveBack? d entry order).toList
  | _, _ => []

/-- The order of an exit. -/
def exitOrders (d : Desk σ) (x : Exit) : List Sent :=
  if x.fraction ≤ Decimal.zero ∨ Decimal.one < x.fraction then []
  else
    match d.book.find? x.user x.symbol with
    | none => []
    | some p => ((exitOrder? p x).map fun order ↦ ⟨order, .exit p x⟩).toList

theorem entryOrders_of_screened {entry : Entry} {order : Order.Request}
    (screened : e.screen d entry = .ok ()) (ordered : entryOrder? entry = some order) :
    e.entryOrders d entry = ⟨order, .entry entry⟩ :: (e.giveBack? d entry order).toList := by
  rw [entryOrders, screened, ordered]

theorem exitOrders_of_held {x : Exit} {p : Position} {order : Order.Request}
    (inside : IsFraction x.fraction) (held : d.book.find? x.user x.symbol = some p)
    (ordered : exitOrder? p x = some order) : exitOrders d x = [⟨order, .exit p x⟩] := by
  rw [exitOrders, if_neg (by rwa [← not_isFraction, not_not]), held]
  dsimp only
  rw [ordered]
  rfl

theorem giveBack?_of_failed {entry : Entry} {order : Order.Request} {error : Error}
    (answered : d.fill? e.broker order = some (.failed d' error)) :
    e.giveBack? d entry order = none := by
  generalize failed : Outcome.failed d' error = o at answered
  cases Desk.fill?_step answered with
  | unreachable placed => simp [giveBack?, placed, Except.toOption]
  | refused placed checked => simp [giveBack?, placed, checked, Except.toOption]
  | confirmed => cases failed

theorem giveBack?_of_done {entry : Entry} {order : Order.Request} {fill : Order.Confirmed}
    {slippage : Decimal} (answered : d.fill? e.broker order = some (.done d' fill))
    (measured : slippage? entry.side entry.price fill.price = some slippage) :
    ∃ response, e.giveBack? d entry order =
      if e.settings.maxSlippage < slippage then
        some ⟨⟨entry.symbol, entry.side.opposite, fill.quantity⟩, .giveBack entry response⟩
      else none := by
  obtain ⟨response, market, placed, checked, -⟩ := Desk.fill?_confirmed answered
  exact ⟨response, by simp [giveBack?, placed, checked, measured, Except.toOption]⟩

/-- An entry adds its orders to those of the desk. -/
theorem enter?_sent {entry : Entry} {o : Outcome σ Position} (h : e.enter? d entry = some o) :
    o.desk.sent = d.sent ++ (e.entryOrders d entry).map (·.request) := by
  cases enter?_step h with
  | barred screened => simp [entryOrders, screened, Outcome.failed]
  | unfilled screened ordered answered =>
    rw [entryOrders_of_screened screened ordered, giveBack?_of_failed answered]
    obtain ⟨market, rfl⟩ := Desk.fill?_desk answered
    rfl
  | slipped screened ordered answered measured above unwound =>
    obtain ⟨response, back⟩ := giveBack?_of_done answered measured
    rw [entryOrders_of_screened screened ordered, back, if_pos above]
    obtain ⟨market, rfl⟩ := Desk.fill?_desk answered
    obtain ⟨market', rfl⟩ := unwind?_desk unwound
    exact List.append_assoc _ _ _
  | filled screened ordered answered measured within formed charged =>
    obtain ⟨response, back⟩ := giveBack?_of_done answered measured
    rw [entryOrders_of_screened screened ordered, back, if_neg within]
    obtain ⟨market, rfl⟩ := Desk.fill?_desk answered
    rw [opened, Desk.bookTrade_desk]
    rfl

/-- An exit adds its order to those of the desk. -/
theorem exit?_sent {x : Exit} {o : Outcome σ ExitReport} (h : e.exit? d x = some o) :
    o.desk.sent = d.sent ++ (exitOrders d x).map (·.request) := by
  cases exit?_step h with
  | invalid outside => simp [exitOrders, not_isFraction.1 outside, Outcome.failed]
  | absent inside unheld => simp [exitOrders, unheld, Outcome.failed]
  | unfilled inside held ordered answered =>
    rw [exitOrders_of_held inside held ordered]
    obtain ⟨market, rfl⟩ := Desk.fill?_desk answered
    rfl
  | filled inside held ordered answered reduced reported =>
    rw [exitOrders_of_held inside held ordered]
    obtain ⟨market, rfl⟩ := Desk.fill?_desk answered
    rw [settled, Desk.bookTrade_desk]
    rfl

/-! ## Orders of calls -/

/-- The orders of a call. -/
def orders (e : Engine σ) (d : Desk σ) : Call → List Sent
  | .enter entry => e.entryOrders d entry
  | call => (e.tries d call).flatMap fun (found, x) ↦ exitOrders found x

theorem Chained.sent {tried : List (Desk σ × Exit)} (h : Chained e d tried d') :
    d'.sent = d.sent ++ (tried.flatMap fun (found, x) ↦ exitOrders found x).map (·.request) := by
  induction h with
  | none => simp
  | next tried more ih =>
    rw [ih, exit?_sent tried, List.flatMap_cons, List.map_append, List.append_assoc]

/-- A call adds its orders to those of the desk. -/
theorem perform?_sent {call : Call} (h : e.perform? d call = some d') :
    d'.sent = d.sent ++ (e.orders d call).map (·.request) := by
  cases call with
  | enter entry =>
    obtain ⟨o, entered, rfl⟩ := Option.map_eq_some_iff.1 h
    exact enter?_sent entered
  | exit | forceExit | takeSteps | check =>
    obtain ⟨entry, o, ⟨⟩, -⟩ | chained := perform?_chained h
    exact chained.sent

end Engine

/-! ## Orders of an engine in service -/

namespace Service

variable {s s' : Service σ}

/-- The orders of an event. -/
def ordersAt (s : Service σ) : Event σ → List Sent
  | .call call => s.engine.orders s.desk call
  | .restore | .restart _ _ | .meanwhile _ _ | .outage _ => []

/-- The orders of events one after another, until one of them ends in a fault. -/
def orders (s : Service σ) : List (Event σ) → List Sent
  | [] => []
  | event :: later =>
    s.ordersAt event ++
      match s.step? event with
      | none => []
      | some s' => s'.orders later

theorem step?_sent {event : Event σ} (h : s.step? event = some s') :
    s'.desk.sent = s.desk.sent ++ (s.ordersAt event).map (·.request) := by
  cases event with
  | call call =>
    obtain ⟨d, performed, rfl⟩ := Option.map_eq_some_iff.1 h
    exact Engine.perform?_sent performed
  | restore =>
    cases h
    obtain ⟨book, restored⟩ := s.engine.restored_eq s.desk
    rw [restored]
    exact (List.append_nil _).symm
  | restart fresh killSwitch =>
    cases h
    obtain ⟨book, restored⟩ := fresh.restored_eq (s.desk.restarted killSwitch)
    rw [restored]
    exact (List.append_nil _).symm
  | meanwhile | outage =>
    cases h
    exact (List.append_nil _).symm

/-- A run adds its orders to those of the desk. -/
theorem run?_sent {events : List (Event σ)} (ran : s.run? events = some s') :
    s'.desk.sent = s.desk.sent ++ (s.orders events).map (·.request) := by
  induction events generalizing s with
  | nil =>
    cases ran
    exact (List.append_nil _).symm
  | cons event later ih =>
    obtain ⟨middle, happened, ran⟩ := Option.bind_eq_some_iff.1 ran
    rw [ih ran, step?_sent happened, orders, happened, List.map_append, List.append_assoc]

end Service

end TradingDesk.Execution
