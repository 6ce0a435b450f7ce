import TradingDesk.Proofs.Bot.Accounting
import TradingDesk.Proofs.Execution.Funds

/-!
# Balance and Cash

The balance of a user with the risk manager moves by the net results that the bot records.  The cash
of the paper broker moves with every order that is filled.  Both begin with the same amount, and the
balance follows the cash as long as every fill ends in a recorded result.

An entry whose price slipped too far is bought and sold again without a trade on record, and the bot
counts a failure.  What this took from the cash the risk manager never learns.  Apart from it, and
from what the leftovers of entries took, balance and cash differ by the rounding of the fees.
-/

namespace TradingDesk.Bot

open Execution

section Steps

variable {σ : Type}

/-! ## Steps of a run -/

/-- A move of a bot with the sessions before and after it. -/
structure Step (σ : Type) where
  before : Session σ
  move : Move σ
  after : Session σ

/-- The steps of a row of moves. -/
def trace (b : Bot σ) (s : Session σ) : List (Move σ) → List (Step σ)
  | [] => []
  | m :: rest => ((b.move? s m).map fun s' ↦ ⟨s, m, s'⟩ :: b.trace s' rest).getD []

variable {b : Bot σ} {s s' : Session σ}

theorem trace_cons {m : Move σ} (moved : b.move? s m = some s') (rest : List (Move σ)) :
    b.trace s (m :: rest) = ⟨s, m, s'⟩ :: b.trace s' rest := by
  rw [trace, moved]
  rfl

/-! ## Desks after a look -/

theorem desk_foldlM_recordExit? {now : Instant} {reports : List ExitReport}
    (h : reports.foldlM (fun s r ↦ s.recordExit? now r) s = some s') : s'.desk = s.desk := by
  induction reports generalizing s with
  | nil =>
    cases h
    rfl
  | cons r reports ih =>
    obtain ⟨middle, first, rest⟩ := Option.bind_eq_some_iff.1 h
    exact (ih rest).trans (Session.recordExit?_recorded first).1

/-- Managing exits leaves the desk as the check left it. -/
theorem manageExits?_desk {now : Instant} {symbol : String} {price : Decimal}
    (h : b.manageExits? s now symbol price = some s') :
    ∃ o, b.engine.check? s.desk b.settings.user symbol price = some o ∧ s'.desk = o.desk := by
  obtain ⟨⟨d, result⟩, checked, h⟩ := Option.bind_eq_some_iff.1 h
  refine ⟨⟨d, result⟩, checked, ?_⟩
  cases result with
  | error error =>
    cases h
    rfl
  | ok reports => exact desk_foldlM_recordExit? h

end Steps

/-! ## Cash over a run -/

variable {settings : Execution.Settings} {paper : Broker.Paper.Settings} {funds : ℚ}
  {b : Bot Broker.Paper.State} {s s' : Session Broker.Paper.State}

open Broker.Paper (PaysExactly)

/-- What a look took from the cash although it neither found a position in its symbol nor left
one. -/
def unbacked (b : Bot Broker.Paper.State) (step : Step Broker.Paper.State) : ℚ :=
  match step.move with
  | .look symbol _ _ =>
    if (step.before.desk.book.find? b.settings.user symbol).isSome then 0
    else step.before.desk.unbacked b.settings.user symbol step.after.desk
  | .begin | .save | .meanwhile _ _ => 0

theorem unbacked_of_open {symbol : String} {candles : List Candle} {now : Instant}
    (isOpen : (s.desk.book.find? b.settings.user symbol).isSome) :
    b.unbacked ⟨s, .look symbol candles now, s'⟩ = 0 :=
  if_pos isOpen

theorem unbacked_of_absent {symbol : String} {candles : List Candle} {now : Instant}
    (absent : ¬(s.desk.book.find? b.settings.user symbol).isSome) :
    b.unbacked ⟨s, .look symbol candles now, s'⟩ =
      s.desk.unbacked b.settings.user symbol s'.desk :=
  if_neg absent

/-- Whether nobody but the bot moves cash in a step, and the bot only by orders whose amounts need
no rounding. -/
def Step.PaysExactly (paper : Broker.Paper.Settings) (step : Step Broker.Paper.State) : Prop :=
  match step.move with
  | .look _ _ _ => step.before.desk.OrdersMeet (Broker.Paper.broker paper)
      (Broker.Paper.PaysExactly paper) step.after.desk
  | .meanwhile _ _ => step.after.desk.market.cash = step.before.desk.market.cash
  | .begin | .save => True

instance (paper : Broker.Paper.Settings) :
    (step : Step Broker.Paper.State) → Decidable (step.PaysExactly paper)
  | ⟨_, .look _ _ _, _⟩ => inferInstanceAs (Decidable (Desk.OrdersMeet _ _ _ _))
  | ⟨_, .meanwhile _ _, _⟩ => inferInstanceAs (Decidable (_ = _))
  | ⟨_, .begin, _⟩ => inferInstanceAs (Decidable True)
  | ⟨_, .save, _⟩ => inferInstanceAs (Decidable True)

/-- What the looks of a run took from the cash without a position to show for it. -/
def unseen (b : Bot Broker.Paper.State) (s : Session Broker.Paper.State)
    (moves : List (Move Broker.Paper.State)) : ℚ :=
  ((b.trace s moves).map b.unbacked).sum

/-- A look keeps the desk funded, up to what it took without a position to show for it. -/
theorem onCandles?_funded {symbol : String} {candles : List Candle} {now : Instant}
    (onPaper : b.engine = Engine.onPaper settings paper)
    (a : Funded settings paper b.settings.user funds s.desk)
    (h : b.onCandles? s now symbol candles = some s')
    (exact : Step.PaysExactly paper ⟨s, .look symbol candles now, s'⟩) :
    Funded settings paper b.settings.user (funds - b.unbacked ⟨s, .look symbol candles now, s'⟩)
      s'.desk := by
  change s.desk.OrdersMeet _ _ s'.desk at exact
  unfold onCandles? at h
  by_cases isOpen : (s.desk.book.find? b.settings.user symbol).isSome
  · rw [unbacked_of_open isOpen, sub_zero]
    split at h
    · cases h
      exact a
    · rw [if_pos isOpen] at h
      obtain ⟨o, checked, after⟩ := manageExits?_desk h
      rw [onPaper] at checked
      obtain ⟨tried, attempts, -⟩ := Engine.check?_attempts checked
      rw [after] at exact ⊢
      exact attempts.preserves_of_ordersMeet Engine.exit?_funded a exact
  · rw [unbacked_of_absent isOpen]
    split at h
    · cases h
      exact a.of_backed (Desk.unbacked_of_cash rfl)
    · rename_i seen
      rw [if_neg isOpen] at h
      cases tryEntry?_look seen h with
      | quiet desk =>
        rw [desk]
        exact a.of_backed (Desk.unbacked_of_cash rfl)
      | sent ofUser inSymbol entered desk =>
        rw [onPaper] at entered
        rw [desk] at exact ⊢
        rw [← ofUser] at a ⊢
        rw [← inSymbol]
        exact Engine.enter?_funded a entered exact

theorem move?_funded {m : Move Broker.Paper.State}
    (onPaper : b.engine = Engine.onPaper settings paper)
    (a : Funded settings paper b.settings.user funds s.desk) (h : b.move? s m = some s')
    (exact : Step.PaysExactly paper ⟨s, m, s'⟩) :
    Funded settings paper b.settings.user (funds - b.unbacked ⟨s, m, s'⟩) s'.desk := by
  cases m with
  | begin =>
    cases h
    rwa [unbacked, sub_zero]
  | look symbol candles now => exact onCandles?_funded onPaper a h exact
  | save =>
    cases h
    rw [unbacked, sub_zero]
    exact a.of_cash (Session.writable_save a.writable) rfl s.history_save rfl
  | meanwhile market killSwitch =>
    cases h
    rw [unbacked, sub_zero]
    exact a.of_cash ⟨a.writable.online, a.writable.named⟩ rfl rfl exact

/-- Over a run, the trades explain the cash up to what no position shows for. -/
theorem foldlM_move?_funded {moves : List (Move Broker.Paper.State)}
    (onPaper : b.engine = Engine.onPaper settings paper)
    (a : Funded settings paper b.settings.user funds s.desk)
    (exact : ∀ step ∈ b.trace s moves, step.PaysExactly paper)
    (ran : moves.foldlM b.move? s = some s') :
    Funded settings paper b.settings.user (funds - b.unseen s moves) s'.desk := by
  induction moves generalizing s funds with
  | nil =>
    cases ran
    change Funded _ _ _ (funds - 0) _
    rwa [sub_zero]
  | cons m rest ih =>
    obtain ⟨middle, moved, ran⟩ := Option.bind_eq_some_iff.1 ran
    rw [trace_cons moved] at exact
    obtain ⟨here, later⟩ := List.forall_mem_cons.1 exact
    have after := ih (move?_funded onPaper a moved here) later ran
    rw [unseen, trace_cons moved, List.map_cons, List.sum_cons, ← sub_sub]
    exact after

/-! ## Balance over a run -/

/-- Whether the results on record, and the balance that they lead to from an opening one, need no
rounding apart from that of the fees. -/
def BalancesExactly (b : Bot Broker.Paper.State) (opening : Decimal)
    (s : Session Broker.Paper.State) : Prop :=
  (∀ lot ∈ Ledger.lots s.desk.ledger.history, lot.IsExact) ∧
    AllNetExactly b.engine.settings s.desk.ledger.history ∧
    ∀ nets ∈ netResults? b.engine.settings b.settings.user s.desk.ledger.history,
      Decimal.SumsExactly opening nets.reverse

instance (b : Bot Broker.Paper.State) (opening : Decimal) (s : Session Broker.Paper.State) :
    Decidable (b.BalancesExactly opening s) :=
  inferInstanceAs (Decidable (_ ∧ _ ∧ ∀ nets ∈ netResults? _ _ _, _))

/-- Whether the balance of the user is ahead of the cash of the broker by an amount, up to one in the
eighth digit for each exit. -/
def IsAheadBy (b : Bot Broker.Paper.State) (x : ℚ) (s : Session Broker.Paper.State) : Prop :=
  ∃ balance, s.risk.balance? b.settings.user = some balance ∧
    |balance.value - (s.desk.market.cash.value + x)| ≤
      (s.desk.ledger.exitsOf b.settings.user).length / 10 ^ 8

/-- Without records a bot starts with the balance of its broker, unless its user has a state. -/
theorem initialize?_opening {market : Broker.Paper.State} {killSwitch : KillSwitch}
    {clock now : Instant} {risk : Risk.Manager} {result : Except String Unit}
    (unknown : risk.stored? b.settings.user = none)
    (h : b.initialize? (.new (.new market killSwitch clock) risk) now = some (s, result)) :
    s.desk = .new market killSwitch clock ∧
      s.risk.balance? b.settings.user = some (b.engine.broker.balance market) := by
  have untouched : risk.touch b.settings.user now = risk := by
    rw [Risk.Manager.touch, unknown]
  rw [initialize?_new, untouched] at h
  simp only [unknown, Option.isSome_none, Bool.false_eq_true, if_false] at h
  obtain ⟨risk', set, h⟩ := Option.map_eq_some_iff.1 h
  rw [Risk.Manager.setBalance?, unknown] at set
  cases set
  cases h
  exact ⟨rfl, Risk.Manager.balance?_file_self risk b.settings.user _⟩

/-- A balance that the net results raised from an opening cash is ahead of the cash that the trades
left by what else went from it, and by what the leftovers of entries took. -/
theorem isAheadBy_of_funded {opening balance : Decimal} {cost : ℚ} {nets : List Decimal}
    (onPaper : b.engine = Engine.onPaper settings paper)
    (sameFee : settings.feeRate.value = paper.fee.value)
    (funded : Funded settings paper b.settings.user (opening.value - cost) s.desk)
    (exact : b.BalancesExactly opening s)
    (known : netResults? b.engine.settings b.settings.user s.desk.ledger.history = some nets)
    (summed : nets.reverse.foldlM Decimal.add? opening = some balance)
    (reached : s.risk.balance? b.settings.user = some balance) :
    b.IsAheadBy
      (cost + ((Ledger.lots s.desk.ledger.history).map (·.tied paper.fee.value)).sum) s := by
  obtain ⟨lotsExact, netsExact, sumsExact⟩ := exact
  have raised : balance.value = opening.value + (nets.map Decimal.value).sum := by
    rw [Decimal.value_foldlM_add? (sumsExact nets known) summed, List.map_reverse,
      List.sum_reverse]
  have left : s.desk.market.cash.value = opening.value - cost +
      (((Ledger.lots s.desk.ledger.history).map (·.net paper.fee.value)).sum -
        ((Ledger.lots s.desk.ledger.history).map (·.tied paper.fee.value)).sum) := by
    rw [funded.cash, funded.accounted.cashAfterFee lotsExact]
  rw [onPaper] at known netsExact
  have near := abs_netResults?_sub_le funded.accounted funded.own funded.charged netsExact known
  rw [netResults?_length known] at near
  refine ⟨balance, reached, ?_⟩
  calc
    _ = |(nets.map Decimal.value).sum -
        ((Ledger.lots s.desk.ledger.history).map (·.net settings.feeRate.value)).sum| := by
      rw [raised, left, sameFee]
      apply congrArg abs
      ring
    _ ≤ (s.desk.ledger.exitsOf b.settings.user).length / 10 ^ 8 := near

/-- The balance follows the cash of the paper broker, if the broker takes the fee that execution
expects, no exit is lost, and amounts are exact apart from the rounding of fees: it is ahead of the
cash by what looks took without a position to show for it, and by what the leftovers of entries
took.  Where every look that took cash opened a position, and every entry was sold off, it is the
cash. -/
theorem balance_follows_cash {market : Broker.Paper.State} {killSwitch : KillSwitch}
    {clock now : Instant} {risk : Risk.Manager} {result : Except String Unit}
    {events : List (Event Broker.Paper.State)} (onPaper : b.engine = Engine.onPaper settings paper)
    (sameFee : settings.feeRate.value = paper.fee.value)
    (unknown : risk.stored? b.settings.user = none)
    (started : b.initialize? (.new (.new market killSwitch clock) risk) now = some (s, result))
    (ran : events.foldlM b.step? s = some s')
    (paid : ∀ step ∈ b.trace s (events.flatMap b.moves), step.PaysExactly paper)
    (exact : b.BalancesExactly market.cash s')
    (nothing : b.lost s (events.flatMap b.moves) = []) :
    b.IsAheadBy (b.unseen s (events.flatMap b.moves) +
        ((Ledger.lots s'.desk.ledger.history).map (·.tied paper.fee.value)).sum) s' ∧
      (b.unseen s (events.flatMap b.moves) = 0 →
        (∀ lot ∈ Ledger.lots s'.desk.ledger.history, lot.leftover = 0) → b.IsAheadBy 0 s') := by
  obtain ⟨desk, opening⟩ := initialize?_opening unknown started
  obtain ⟨fresh, -⟩ := initialize?_fresh started
  rw [foldlM_step?] at ran
  have funded : Funded settings paper b.settings.user market.cash.value s.desk := by
    rw [desk]
    exact .new settings paper b.settings.user market killSwitch clock
  have funded := foldlM_move?_funded onPaper funded paid ran
  obtain ⟨booked, told, passed, misses⟩ := foldlM_move?_passed fresh.writable fresh.priced ran
  obtain rfl := misses.all nothing
  obtain ⟨nets, balance, known, summed, reached⟩ := (fresh.accounted passed).balance opening
  rw [onPaper] at summed
  have ahead := isAheadBy_of_funded onPaper sameFee funded exact known summed reached
  refine ⟨ahead, ?_⟩
  intro seen sold
  have untied : ((Ledger.lots s'.desk.ledger.history).map (·.tied paper.fee.value)).sum = 0 := by
    apply List.sum_eq_zero
    intro tied mem
    obtain ⟨lot, listed, rfl⟩ := List.mem_map.1 mem
    exact Ledger.Lot.tied_of_sold (sold lot listed) paper.fee.value
  rwa [seen, untied, add_zero] at ahead

/-! ## A bot that pays for nothing -/

/-- A paper broker whose prices slip further than execution accepts. -/
def slipping : Broker.Paper.Settings :=
  { Broker.Paper.Settings.standard with
    slippage := Decimal.const 1 2
    fee := Decimal.const 1 2 }

/-- A bot that trades on every signal, over this broker. -/
def slippingBot : Bot Broker.Paper.State :=
  { settings := { Settings.standard with symbols := ["BTC-USD"] }
    scorer := .ofSettings { Signal.ScorerSettings.standard with minScore := 0 }
    sizing := .standard
    engine := .onPaper
      { Execution.Settings.standard with
        feeRate := Decimal.const 1 2
        ladder := ⟨[], Decimal.zero⟩ } slipping }

/-- The session of the bot before its start, at a price of 100. -/
def slippingStart : Session Broker.Paper.State :=
  .new (.new ((Broker.Paper.State.new slipping).setPrice "BTC-USD" (Decimal.const 100 0))
    (KillSwitch.new none) Instant.epoch) (.new Risk.Settings.standard)

/-- A look at two candles at 100. -/
def firstLook : Move Broker.Paper.State :=
  .look "BTC-USD" [flat 100, flat 100] Instant.epoch

/-- A look after the price rose from 100 to 106. -/
def lastLook : Move Broker.Paper.State :=
  .look "BTC-USD" [flat 100, flat 106] Instant.epoch

/-- The session after the prices stopped slipping. -/
def calmed (s : Session Broker.Paper.State) : Session Broker.Paper.State :=
  s.outside (·.setSlippage Decimal.zero) id

/-- The session after the price rose to 106. -/
def risen (s : Session Broker.Paper.State) : Session Broker.Paper.State :=
  s.outside (·.setPrice "BTC-USD" (Decimal.const 106 0)) id

/-- The bot enters at a price that slipped too far, and once more without slippage, and takes its
profit at 106. -/
def detour : List (Event Broker.Paper.State) :=
  [.look "BTC-USD" [flat 100, flat 100] Instant.epoch,
    .meanwhile (·.setSlippage Decimal.zero) id,
    .look "BTC-USD" [flat 100, flat 100] Instant.epoch,
    .meanwhile (·.setPrice "BTC-USD" (Decimal.const 106 0)) id,
    .look "BTC-USD" [flat 100, flat 106] Instant.epoch]

/-- A session of the bot in which a look at two candles at 100 is a long entry. -/
def entered? (s : Session Broker.Paper.State) : Option (Session Broker.Paper.State) :=
  if (s.desk.book.find? "default" "BTC-USD").isSome then none
  else slippingBot.enterLong? s Instant.epoch "BTC-USD" [flat 100, flat 100] (flat 100) (flat 100)

theorem firstLook_of_entered? {s s' : Session Broker.Paper.State} (h : entered? s = some s') :
    slippingBot.move? s firstLook = some s' := by
  unfold entered? at h
  split at h
  · cases h
  · rename_i absent
    exact look_of_enterLong? rfl rfl absent h

/-- The steps of the detour in which the bot looks. -/
def looks (s₀ s₁ s₂ s₃ : Session Broker.Paper.State) : List (Step Broker.Paper.State) :=
  [⟨s₀, firstLook, s₁⟩, ⟨calmed s₁, firstLook, s₂⟩, ⟨risen s₂, lastLook, s₃⟩]

/-- Of the detour, the first look takes 20 from the cash for nothing, and the last one takes the
profit of the second. -/
theorem detour_run : ∃ s₀ s₁ s₂ s₃,
    slippingBot.initialize? slippingStart Instant.epoch = some (s₀, .ok ()) ∧
      slippingBot.move? s₀ firstLook = some s₁ ∧
      slippingBot.move? (calmed s₁) firstLook = some s₂ ∧
      slippingBot.move? (risen s₂) lastLook = some s₃ ∧
      (∀ step ∈ looks s₀ s₁ s₂ s₃, step.PaysExactly slipping) ∧
      ((looks s₀ s₁ s₂ s₃).map slippingBot.unbacked).sum = 20 ∧
      slippingBot.BalancesExactly slipping.initialBalance s₃ := by
  -- the kernel cannot compute the indicators, so the entries are evaluated without them
  have ran : ∃ start ∈ slippingBot.initialize? slippingStart Instant.epoch,
      ∃ s₁ ∈ entered? start.1, ∃ s₂ ∈ entered? (calmed s₁),
        ∃ s₃ ∈ slippingBot.move? (risen s₂) lastLook,
          (∀ step ∈ looks start.1 s₁ s₂ s₃, step.PaysExactly slipping) ∧
          ((looks start.1 s₁ s₂ s₃).map slippingBot.unbacked).sum = 20 ∧
          slippingBot.BalancesExactly slipping.initialBalance s₃ := by
    decide +kernel
  obtain ⟨⟨s₀, result⟩, started, s₁, first, s₂, second, s₃, last, facts⟩ := ran
  obtain ⟨-, rfl⟩ := initialize?_fresh started
  exact ⟨s₀, s₁, s₂, s₃, started, firstLook_of_entered? first, firstLook_of_entered? second, last,
    facts⟩

theorem balance_follows_cash_detour : ∃ s₀ s,
    slippingBot.initialize? slippingStart Instant.epoch = some (s₀, .ok ()) ∧
      detour.foldlM slippingBot.step? s₀ = some s ∧
      slippingBot.unseen s₀ (detour.flatMap slippingBot.moves) = 20 ∧
      slippingBot.IsAheadBy
        (20 + ((Ledger.lots s.desk.ledger.history).map (·.tied slipping.fee.value)).sum) s := by
  obtain ⟨s₀, s₁, s₂, s₃, started, first, second, last, paid, taken, exact⟩ := detour_run
  have moves : detour.flatMap slippingBot.moves = [firstLook,
      .meanwhile (·.setSlippage Decimal.zero) id, firstLook,
      .meanwhile (·.setPrice "BTC-USD" (Decimal.const 106 0)) id, lastLook] := rfl
  have calm :
      slippingBot.move? s₁ (.meanwhile (·.setSlippage Decimal.zero) id) = some (calmed s₁) := rfl
  have rise : slippingBot.move? s₂
      (.meanwhile (·.setPrice "BTC-USD" (Decimal.const 106 0)) id) = some (risen s₂) := rfl
  have ran : detour.foldlM slippingBot.step? s₀ = some s₃ := by
    rw [foldlM_step?, moves]
    simp only [List.foldlM_cons, List.foldlM_nil, Option.bind_eq_bind, first, calm, second, rise,
      last, Option.bind_some]
    rfl
  have steps : slippingBot.trace s₀ (detour.flatMap slippingBot.moves) =
      [⟨s₀, firstLook, s₁⟩, ⟨s₁, .meanwhile (·.setSlippage Decimal.zero) id, calmed s₁⟩,
        ⟨calmed s₁, firstLook, s₂⟩,
        ⟨s₂, .meanwhile (·.setPrice "BTC-USD" (Decimal.const 106 0)) id, risen s₂⟩,
        ⟨risen s₂, lastLook, s₃⟩] := by
    rw [moves, trace_cons first, trace_cons calm, trace_cons second, trace_cons rise,
      trace_cons last]
    rfl
  have unseen : slippingBot.unseen s₀ (detour.flatMap slippingBot.moves) = 20 := by
    rw [Bot.unseen, steps, ← taken]
    change _ + (0 + (_ + (0 + _))) = _ + (_ + _)
    rw [zero_add, zero_add]
  have paid : ∀ step ∈ slippingBot.trace s₀ (detour.flatMap slippingBot.moves),
      step.PaysExactly slipping := by
    simp only [looks, List.forall_mem_cons] at paid
    rw [steps]
    simp only [List.forall_mem_cons]
    exact ⟨paid.1, rfl, paid.2.1, rfl, paid.2.2⟩
  obtain ⟨fresh, -⟩ := initialize?_fresh started
  have nothing : slippingBot.lost s₀ (detour.flatMap slippingBot.moves) = [] :=
    lost_of_short_ladder (by decide) fresh.writable fresh.priced
  have onPaper : slippingBot.engine = .onPaper slippingBot.engine.settings slipping := rfl
  obtain ⟨ahead, -⟩ := balance_follows_cash onPaper rfl rfl started ran paid exact nothing
  rw [unseen] at ahead
  exact ⟨s₀, s₃, started, ran, unseen, ahead⟩

/-- A tick at two candles at 100. -/
def flatTick : Event Broker.Paper.State :=
  .tick (fun _ _ ↦ some [flat 100, flat 100]) Instant.epoch

/-- The balance can miss the cash after a tick that leaves no position, no holding and no exit,
although the fees agree, the mark is the last close and no amount is rounded. -/
theorem balance_can_miss_cash : ∃ s₀ s,
    slippingBot.initialize? slippingStart Instant.epoch = some (s₀, .ok ()) ∧
      slippingBot.step? s₀ flatTick = some s ∧
      slippingBot.engine.settings.feeRate = slipping.fee ∧
      s.desk.market.prices.find? "BTC-USD" = some (flat 100).close ∧
      s₀.desk.OrdersMeet (Broker.Paper.broker slipping) (fun market order ↦
        Broker.Paper.FillsExactly slipping market order ∧ PaysExactly slipping market order)
        s.desk ∧
      s.desk.book = [] ∧ s.desk.market.holdings = [] ∧ ¬slippingBot.IsAheadBy 0 s := by
  have ran : ∃ start ∈ slippingBot.initialize? slippingStart Instant.epoch,
      ∃ s ∈ entered? (start.1.count Tally.countTick),
        s.save.desk.market.prices.find? "BTC-USD" = some (flat 100).close ∧
        start.1.desk.OrdersMeet (Broker.Paper.broker slipping) (fun market order ↦
          Broker.Paper.FillsExactly slipping market order ∧ PaysExactly slipping market order)
          s.save.desk ∧
        s.save.desk.book = [] ∧ s.save.desk.market.holdings = [] ∧
        s.save.desk.market.cash.value = 9980 ∧
        s.save.risk.balance? "default" = some slipping.initialBalance ∧
        s.save.desk.ledger.exitsOf "default" = [] := by
    decide +kernel
  obtain ⟨⟨s₀, result⟩, started, s, entered, mark, met, noPosition, noHolding, cash, known, noExit⟩ :=
    ran
  obtain ⟨-, rfl⟩ := initialize?_fresh started
  have looked : slippingBot.move? (s₀.count Tally.countTick) firstLook = some s :=
    firstLook_of_entered? entered
  have ticked : slippingBot.step? s₀ flatTick = some s.save := by
    rw [step?_eq_moves]
    change (slippingBot.move? (s₀.count Tally.countTick) firstLook).bind _ = _
    rw [looked]
    rfl
  refine ⟨s₀, s.save, started, ticked, rfl, mark, met, noPosition, noHolding, ?_⟩
  rintro ⟨balance, reached, near⟩
  change s.save.risk.balance? "default" = some balance at reached
  change _ ≤ ((s.save.desk.ledger.exitsOf "default").length : ℚ) / 10 ^ 8 at near
  rw [known] at reached
  cases reached
  rw [cash, noExit] at near
  revert near
  decide +kernel

end TradingDesk.Bot
