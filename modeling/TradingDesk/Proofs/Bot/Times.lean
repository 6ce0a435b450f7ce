import TradingDesk.Bot.Session
import TradingDesk.Proofs.Execution.Times
import TradingDesk.Proofs.Risk.Times

/-!
# Bots under Two Clocks

A bot hands the time of a tick to the risk manager, and its desk writes times into positions and
trades.  Two sessions that are the same but for times, and whose clocks turn together, stay so when
they look at the same candles: they score, size and order alike.
-/

namespace TradingDesk

open Execution Risk

variable {σ : Type} {clock clock' : Nat → Instant}

/-! ## Views of a desk -/

namespace Execution.Desk.Alike

variable {d d' : Desk σ}

/-- The positions of a user are the same but for times. -/
theorem ofUser (h : d.Alike d') (user : String) :
    (d.book.ofUser user).map Position.timeless = (d'.book.ofUser user).map Position.timeless := by
  have own (b : Book) : (b.ofUser user).map Position.timeless =
      (b.map Position.timeless).filter fun p ↦ p.user == user := by
    rw [List.filter_map]
    rfl
  rw [own, own, h.book]

theorem count_eq (h : d.Alike d') (user : String) : d.book.count user = d'.book.count user := by
  have lengths := congrArg List.length (h.ofUser user)
  rwa [List.length_map, List.length_map] at lengths

theorem exposure?_eq (h : d.Alike d') (user : String) :
    Bot.exposure? d user = Bot.exposure? d' user := by
  have values (ps : List Position) :
      ps.mapM Position.notional? = (ps.map Position.timeless).mapM Position.notional? := by
    rw [List.mapM_map]
    rfl
  unfold Bot.exposure?
  rw [values, h.ofUser user, ← values]

end Execution.Desk.Alike

namespace Bot

/-! ## Sessions in step -/

/-- Whether two sessions are the same but for times, under two clocks. -/
structure Session.InStep (clock clock' : Nat → Instant) (s s' : Session σ) : Prop where
  desk : s.desk.Alike s'.desk
  risk : s.risk.InStep clock clock' s'.risk
  tally : s.tally = s'.tally
  exitReturns : s.exitReturns = s'.exitReturns

namespace Session.InStep

variable {s s' : Session σ}

theorem count (h : s.InStep clock clock' s') (f : Tally → Tally) :
    (s.count f).InStep clock clock' (s'.count f) :=
  ⟨h.desk, h.risk, congrArg f h.tally, h.exitReturns⟩

theorem touch (h : s.InStep clock clock' s') (turn : TurnTogether clock clock') (user : String)
    (n : Nat) : (s.touch user (clock n)).InStep clock clock' (s'.touch user (clock' n)) :=
  ⟨h.desk, h.risk.touch turn user n, h.tally, h.exitReturns⟩

theorem withDesk {d d' : Desk σ} (h : s.InStep clock clock' s') (desks : d.Alike d') :
    InStep clock clock' { s with desk := d } { s' with desk := d' } :=
  ⟨desks, h.risk, h.tally, h.exitReturns⟩

theorem withRisk {m m' : Manager} (h : s.InStep clock clock' s')
    (managers : m.InStep clock clock' m') :
    InStep clock clock' { s with risk := m } { s' with risk := m' } :=
  ⟨h.desk, managers, h.tally, h.exitReturns⟩

theorem balance_eq (h : s.InStep clock clock' s') (user : String) :
    s.balance user = s'.balance user := by
  unfold Session.balance
  rw [h.risk.balance_eq]

theorem history_eq (h : s.InStep clock clock' s') : s.history = s'.history := by
  unfold Session.history
  rw [h.exitReturns]

/-- The saved risk states tell times, but no trade and no position does more than before. -/
theorem save (h : s.InStep clock clock' s') : s.save.InStep clock clock' s'.save := by
  have kept (m : Manager) (l : Ledger) : (m.save l).trades = l.trades ∧
      (m.save l).positions = l.positions ∧ (m.save l).outages = l.outages := by
    unfold Manager.save
    induction m.states generalizing l with
    | nil => exact ⟨rfl, rfl, rfl⟩
    | cons entry states ih => exact ih _
  refine ⟨?_, h.risk, h.tally, h.exitReturns⟩
  obtain ⟨trades, positions, outages⟩ := kept s.risk s.desk.ledger
  obtain ⟨trades', positions', outages'⟩ := kept s'.risk s'.desk.ledger
  refine ⟨h.desk.market, h.desk.book, ⟨?_, ?_, ?_⟩, h.desk.killSwitch, h.desk.sent, h.desk.serial⟩
  · exact trades ▸ trades' ▸ h.desk.ledger.trades
  · exact positions ▸ positions' ▸ h.desk.ledger.positions
  · exact outages ▸ outages' ▸ h.desk.ledger.outages

theorem recordExit? (h : s.InStep clock clock' s') (turn : TurnTogether clock clock') (n : Nat)
    (r : ExitReport) :
    Option.Rel (InStep clock clock') (s.recordExit? (clock n) r) (s'.recordExit? (clock' n) r) := by
  unfold Session.recordExit?
  rw [h.tally, h.exitReturns]
  refine rel_bind_same _ fun net ↦ ?_
  refine rel_bind_same _ fun tally ↦ ?_
  refine rel_bind_same _ fun exitReturn ↦ ?_
  exact rel_bind (h.risk.recordTrade? turn r.user net n) fun _ _ _ both ↦
    .some ⟨h.desk, both, rfl, rfl⟩

end Session.InStep

/-! ## Looks -/

variable {s s' : Session σ} {symbol : String} {candles : List Candle} {n : Nat}

theorem manageExits?_inStep (b : Bot σ) (h : s.InStep clock clock' s')
    (turn : TurnTogether clock clock') (price : Decimal) :
    Option.Rel (Session.InStep clock clock') (b.manageExits? s (clock n) symbol price)
      (b.manageExits? s' (clock' n) symbol price) := by
  refine rel_bind (b.engine.bisimulation_alike.check? h.desk _ symbol price) fun o o' _ both ↦ ?_
  obtain ⟨d, result⟩ := o
  obtain ⟨d', result'⟩ := o'
  have after := h.withDesk both.desk
  cases both.result with
  | error e => exact .some (after.count Tally.countFailure)
  | @ok reports reports' same =>
    subst same
    exact rel_foldlM after fun r _ _ _ between ↦ between.recordExit? turn n r

theorem sendEntry?_inStep (b : Bot σ) (h : s.InStep clock clock' s')
    (turn : TurnTogether clock clock') (entry : Entry) :
    Option.Rel (Session.InStep clock clock') (b.sendEntry? s (clock n) entry)
      (b.sendEntry? s' (clock' n) entry) := by
  have touched := h.touch turn b.settings.user n
  unfold sendEntry?
  dsimp only
  generalize s.touch b.settings.user (clock n) = s, s'.touch b.settings.user (clock' n) = s'
    at touched ⊢
  rw [touched.desk.count_eq, touched.risk.check?_eq turn]
  refine rel_bind_same _ fun denial ↦ ?_
  cases denial with
  | some denial => exact .some (touched.count Tally.countRejection)
  | none =>
    refine rel_bind (b.engine.enter?_alike touched.desk entry) fun o o' _ both ↦ ?_
    obtain ⟨d, result⟩ := o
    obtain ⟨d', result'⟩ := o'
    have after := touched.withDesk both.desk
    cases both.result with
    | error e => exact .some (after.count Tally.countFailure)
    | ok =>
      exact rel_bind (after.risk.recordEntry? turn b.settings.user n) fun _ _ _ managers ↦
        .some ((after.withRisk managers).count Tally.countEntry)

theorem tryEntry?_inStep (b : Bot σ) (h : s.InStep clock clock' s')
    (turn : TurnTogether clock clock') (previous last : Candle) :
    Option.Rel (Session.InStep clock clock') (b.tryEntry? s (clock n) symbol candles previous last)
      (b.tryEntry? s' (clock' n) symbol candles previous last) := by
  refine rel_bind_same _ fun indicators ↦ rel_bind_same _ fun best ↦ ?_
  have evaluated := h.count Tally.countEvaluated
  match best with
  | none => exact .some evaluated
  | some (side, signal) =>
    have allowed := (evaluated.count Tally.countAllowed).touch turn b.settings.user n
    dsimp only
    rw [allowed.desk.exposure?_eq, allowed.balance_eq, allowed.history_eq]
    refine rel_bind_same _ fun exposure ↦ rel_bind_same _ fun size ↦ ?_
    split
    · exact .some allowed
    · exact b.sendEntry?_inStep allowed turn _

theorem onCandles?_inStep (b : Bot σ) (h : s.InStep clock clock' s')
    (turn : TurnTogether clock clock') :
    Option.Rel (Session.InStep clock clock') (b.onCandles? s (clock n) symbol candles)
      (b.onCandles? s' (clock' n) symbol candles) := by
  unfold onCandles?
  split
  · exact .some h
  · rw [isSome_eq_of_rel (h.desk.find? b.settings.user symbol)]
    split
    · exact b.manageExits?_inStep h turn _
    · exact b.tryEntry?_inStep h turn _ _

/-- Sessions in step stay in step when they tick at one reading of their clocks. -/
theorem tick?_inStep (b : Bot σ) (h : s.InStep clock clock' s')
    (turn : TurnTogether clock clock') (feed : Feed) (n : Nat) :
    Option.Rel (Session.InStep clock clock') (b.tick? feed (clock n) s)
      (b.tick? feed (clock' n) s') := by
  have visits : Option.Rel (Session.InStep clock clock')
      (b.settings.symbols.foldlM (b.visit? feed (clock n)) (s.count Tally.countTick))
      (b.settings.symbols.foldlM (b.visit? feed (clock' n)) (s'.count Tally.countTick)) := by
    refine rel_foldlM (h.count Tally.countTick) fun symbol _ s s' between ↦ ?_
    unfold visit?
    split
    · exact .some between
    · exact b.onCandles?_inStep between turn
  exact rel_bind visits fun _ _ _ both ↦ .some both.save

end Bot

end TradingDesk
