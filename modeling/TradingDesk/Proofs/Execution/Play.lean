import TradingDesk.Proofs.Broker.Books
import TradingDesk.Proofs.Execution.Gate
import TradingDesk.Proofs.Execution.Run

/-!
# Plays on the Paper Broker

Between the calls of execution the prices of the paper broker move.  A play is a list of such
events, new prices and calls, on one desk.

Every order that a call sends reaches the broker in the state in which the orders before it left it.
A property of orders and of the states that they meet can therefore be asked of a whole call, and a
call has it exactly when each of its entries and exits has it.
-/

namespace TradingDesk

namespace Broker

variable {σ : Type} {broker : Broker σ} {P : σ → Order.Request → Prop} {market market' : σ}

/-- The state of a broker after orders that are placed one after another. -/
def placeAll? (broker : Broker σ) (market : σ) (orders : List Order.Request) : Option σ :=
  orders.foldlM (fun market order ↦ (broker.place market order).map (·.2)) market

/-- Whether a property holds of every order of a list and the state of the broker that it meets. -/
def Meets (broker : Broker σ) (P : σ → Order.Request → Prop) : σ → List Order.Request → Prop
  | _, [] => True
  | market, order :: rest =>
    P market order ∧ ∀ answer ∈ broker.place market order, broker.Meets P answer.2 rest

instance Meets.decidable (broker : Broker σ) (P : σ → Order.Request → Prop)
    [∀ market order, Decidable (P market order)] (market : σ) :
    (orders : List Order.Request) → Decidable (broker.Meets P market orders)
  | [] => inferInstanceAs (Decidable True)
  | order :: rest =>
    have (market : σ) : Decidable (broker.Meets P market rest) := decidable broker P market rest
    inferInstanceAs (Decidable (P market order ∧
      ∀ answer ∈ broker.place market order, broker.Meets P answer.2 rest))

theorem meets_append {orders later : List Order.Request}
    (placed : broker.placeAll? market orders = some market') :
    broker.Meets P market (orders ++ later) ↔
      broker.Meets P market orders ∧ broker.Meets P market' later := by
  induction orders generalizing market with
  | nil =>
    cases placed
    exact iff_and_self.2 fun _ ↦ trivial
  | cons order orders ih =>
    obtain ⟨next, first, placed⟩ := Option.bind_eq_some_iff.1 placed
    obtain ⟨answer, answered, rfl⟩ := Option.map_eq_some_iff.1 first
    have only (Q : σ → Prop) : (∀ other ∈ broker.place market order, Q other.2) ↔ Q answer.2 := by
      rw [answered]
      exact ⟨fun h ↦ h answer rfl, fun h other same ↦ Option.some.inj same ▸ h⟩
    change (P market order ∧ ∀ other ∈ broker.place market order,
        broker.Meets P other.2 (orders ++ later)) ↔
      (P market order ∧ ∀ other ∈ broker.place market order, broker.Meets P other.2 orders) ∧ _
    rw [only fun state ↦ broker.Meets P state (orders ++ later),
      only fun state ↦ broker.Meets P state orders, ih placed, and_assoc]

theorem meets_singleton {order : Order.Request} :
    broker.Meets P market [order] ↔ P market order :=
  ⟨fun h ↦ h.1, fun h ↦ ⟨h, fun _ _ ↦ trivial⟩⟩

end Broker

namespace Execution

variable {σ : Type} {broker : Broker σ} {e : Engine σ} {d d' d'' : Desk σ}
  {P : σ → Order.Request → Prop}

/-! ## Orders of a desk -/

namespace Desk

/-- Whether one desk comes from another by orders that it sent to the broker. -/
def Sends (broker : Broker σ) (d d' : Desk σ) : Prop :=
  ∃ orders, d'.sent = d.sent ++ orders ∧ broker.placeAll? d.market orders = some d'.market

/-- Whether a property holds of every order that led from one desk to another. -/
def OrdersMeet (broker : Broker σ) (P : σ → Order.Request → Prop) (d d' : Desk σ) : Prop :=
  broker.Meets P d.market (d'.sent.drop d.sent.length)

instance (broker : Broker σ) (P : σ → Order.Request → Prop)
    [∀ market order, Decidable (P market order)] (d d' : Desk σ) :
    Decidable (d.OrdersMeet broker P d') :=
  inferInstanceAs (Decidable (broker.Meets P d.market (d'.sent.drop d.sent.length)))

theorem Sends.refl (broker : Broker σ) (d : Desk σ) : d.Sends broker d :=
  ⟨[], (List.append_nil d.sent).symm, rfl⟩

theorem Sends.trans (first : d.Sends broker d') (second : d'.Sends broker d'') :
    d.Sends broker d'' := by
  obtain ⟨orders, sent, placed⟩ := first
  obtain ⟨later, sent', placed'⟩ := second
  refine ⟨orders ++ later, by rw [sent', sent, List.append_assoc], ?_⟩
  unfold Broker.placeAll? at placed placed' ⊢
  rw [List.foldlM_append, placed]
  exact placed'

theorem ordersMeet_trans (first : d.Sends broker d') (second : d'.Sends broker d'') :
    d.OrdersMeet broker P d'' ↔ d.OrdersMeet broker P d' ∧ d'.OrdersMeet broker P d'' := by
  obtain ⟨orders, sent, placed⟩ := first
  obtain ⟨later, sent', placed'⟩ := second
  unfold OrdersMeet
  rw [sent', List.drop_left, sent, List.append_assoc, List.drop_left, List.drop_left]
  exact Broker.meets_append placed

/-- An order that was answered is the one that was sent. -/
theorem fill?_sends {order : Order.Request} {o : Outcome σ Order.Confirmed}
    (h : d.fill? broker order = some o) :
    d.Sends broker o.desk ∧ o.desk.sent = d.sent ++ [order] := by
  have placed {answer : Except String Order.Response} {market : σ}
      (placed : broker.place d.market order = some (answer, market)) :
      d.Sends broker (d.afterOrder order market) := by
    refine ⟨[order], rfl, ?_⟩
    change (Option.map _ (broker.place d.market order)).bind _ = _
    rw [placed]
    rfl
  cases fill?_step h with
  | unreachable answered => exact ⟨placed answered, rfl⟩
  | refused answered => exact ⟨placed answered, rfl⟩
  | confirmed answered => exact ⟨placed answered, rfl⟩

/-- A property of the orders of a desk that sent one order is one of this order. -/
theorem ordersMeet_fill? {order : Order.Request} {result : Except Error Order.Confirmed}
    (h : d.fill? broker order = some ⟨d', result⟩) (last : d''.sent = d'.sent) :
    d.OrdersMeet broker P d'' ↔ P d.market order := by
  have sent : d'.sent = d.sent ++ [order] := (fill?_sends h).2
  unfold OrdersMeet
  rw [last, sent, List.drop_left]
  exact Broker.meets_singleton

end Desk

namespace Engine

variable {user symbol : String}

theorem exit?_sends {x : Exit} {o : Outcome σ ExitReport} (h : e.exit? d x = some o) :
    d.Sends e.broker o.desk := by
  cases exit?_step h with
  | invalid => exact .refl e.broker d
  | absent => exact .refl e.broker d
  | unfilled inside held ordered answered => exact (Desk.fill?_sends answered).1
  | @filled p after order d' fill report inside held ordered answered reduced reported =>
    obtain ⟨orders, sent, placed⟩ := (Desk.fill?_sends answered).1
    obtain ⟨ledger, booked⟩ := settled_desk d' p after x fill report
    rw [booked]
    exact ⟨orders, sent, placed⟩

theorem Attempts.sends {tried : List (Outcome σ ExitReport)}
    (h : Attempts e user symbol d tried d') : d.Sends e.broker d' := by
  induction h with
  | none d => exact .refl e.broker d
  | next ofUser inSymbol tried more ih => exact (exit?_sends tried).trans ih

/-- What exits preserve whose orders have a property holds after exits tried one after another, if
all of their orders have it. -/
theorem Attempts.preserves_of_ordersMeet {I : Desk σ → Prop} {tried : List (Outcome σ ExitReport)}
    (exits : ∀ {d x o}, I d → e.exit? d x = some o → d.OrdersMeet e.broker P o.desk → I o.desk)
    (h : Attempts e user symbol d tried d') (start : I d) (met : d.OrdersMeet e.broker P d') :
    I d' := by
  induction h with
  | none => exact start
  | next ofUser inSymbol tried more ih =>
    obtain ⟨first, rest⟩ := (Desk.ordersMeet_trans (exit?_sends tried) more.sends).1 met
    exact ih (exits start tried first) rest

end Engine

/-! ## Entries that are traded back -/

instance (o : Outcome σ Position) : Decidable o.IsImmediateLoss :=
  decidable_of_iff ((match o.result with
    | .error (.immediateLoss _ _ _ _) => true
    | _ => false) = true) <| by
    constructor
    · intro lost
      split at lost
      · rename_i reason
        exact ⟨_, _, _, _, reason⟩
      · cases lost
    · intro ⟨expected, actual, slippage, limit, reason⟩
      rw [reason]

/-- Whether a call is an entry that is traded back. -/
def Engine.TradesBack (e : Engine σ) (d : Desk σ) : Call → Prop
  | .enter entry => ∃ o ∈ e.enter? d entry, o.IsImmediateLoss
  | _ => False

instance (e : Engine σ) (d : Desk σ) : (call : Call) → Decidable (e.TradesBack d call)
  | .enter entry => inferInstanceAs (Decidable (∃ o ∈ e.enter? d entry, o.IsImmediateLoss))
  | .exit _ _ _ _ => inferInstanceAs (Decidable False)
  | .forceExit _ _ _ => inferInstanceAs (Decidable False)
  | .takeSteps _ _ _ => inferInstanceAs (Decidable False)
  | .check _ _ _ => inferInstanceAs (Decidable False)

/-! ## Events -/

/-- A new price of the paper broker, or a call of an operation. -/
inductive Event where
  | quote (symbol : String) (price : Decimal)
  | call (call : Call)

namespace Engine

variable {e : Engine Broker.Paper.State} {d d' : Desk Broker.Paper.State}

/-- An engine over a paper broker. -/
def onPaper (settings : Settings) (s : Broker.Paper.Settings) : Engine Broker.Paper.State :=
  ⟨settings, Broker.Paper.broker s⟩

/-- The desk after an event, however it ended. -/
def react? (e : Engine Broker.Paper.State) (d : Desk Broker.Paper.State) :
    Event → Option (Desk Broker.Paper.State)
  | .quote symbol price => some { d with market := d.market.setPrice symbol price }
  | .call call => e.perform? d call

/-- The desk after events one after another. -/
def play? (e : Engine Broker.Paper.State) (d : Desk Broker.Paper.State) (events : List Event) :
    Option (Desk Broker.Paper.State) :=
  events.foldlM e.react? d

/-- Whether a property holds of every event of a play and the desk that it meets. -/
def Throughout (e : Engine Broker.Paper.State) (P : Desk Broker.Paper.State → Event → Prop) :
    Desk Broker.Paper.State → List Event → Prop
  | _, [] => True
  | d, event :: rest => P d event ∧ ∀ d' ∈ e.react? d event, e.Throughout P d' rest

instance Throughout.decidable (e : Engine Broker.Paper.State)
    (P : Desk Broker.Paper.State → Event → Prop) [∀ d event, Decidable (P d event)]
    (d : Desk Broker.Paper.State) : (events : List Event) → Decidable (e.Throughout P d events)
  | [] => inferInstanceAs (Decidable True)
  | event :: rest =>
    have (d : Desk Broker.Paper.State) : Decidable (e.Throughout P d rest) := decidable e P d rest
    inferInstanceAs (Decidable (P d event ∧ ∀ d' ∈ e.react? d event, e.Throughout P d' rest))

/-- What events with a property preserve holds after every play of such events. -/
theorem play?_preserves {I : Desk Broker.Paper.State → Prop}
    {P : Desk Broker.Paper.State → Event → Prop} {events : List Event}
    (step : ∀ {d event d'}, I d → P d event → e.react? d event = some d' → I d') (start : I d)
    (through : e.Throughout P d events) (played : e.play? d events = some d') : I d' := by
  induction events generalizing d with
  | nil =>
    cases played
    exact start
  | cons event events ih =>
    obtain ⟨next, reacted, played⟩ := Option.bind_eq_some_iff.1 played
    exact ih (step start through.1 reacted) (through.2 next reacted) played

end Engine

end Execution

end TradingDesk
