import TradingDesk.Proofs.Bot.Run
import TradingDesk.Proofs.Broker.Fills

/-!
# Accounting of Exits

A bot learns of exits through the result of a check.  One check can fire several levels of the
ladder, and each exit is booked before the next one is tried.  When a later one fails, the check
fails, and the bot counts a failure and hears nothing of the exits that went through before it.

The tally and the risk manager therefore account for every exit in the ledger exactly as long as no
check fails after an exit of it was booked.  With a ladder of a single level this never happens.
-/

namespace TradingDesk.Bot

open Execution

variable {σ : Type} {b : Bot σ} {s s' : Session σ}

/-! ## Lost exits -/

/-- The exits of a user that an operation put into the ledger although it failed, newest first. -/
def lostIn (user : String) (d : Desk σ) (o : Outcome σ (List ExitReport)) : List Trade :=
  match o.result with
  | .ok _ => []
  | .error _ =>
    let exits := o.desk.ledger.exitsOf user
    exits.take (exits.length - (d.ledger.exitsOf user).length)

/-- The check of exits that a look at a symbol begins with, if a position is open there. -/
def checked? (b : Bot σ) (s : Session σ) (symbol : String) (candles : List Candle) :
    Option (Outcome σ (List ExitReport)) :=
  match Signal.lastTwo? candles with
  | none => none
  | some (last, _) =>
    if (s.desk.book.find? b.settings.user symbol).isSome then
      b.engine.check? s.desk b.settings.user symbol last.close
    else
      none

/-- The exits that are lost in a move. -/
def lostAt (b : Bot σ) (s : Session σ) : Move σ → List Trade
  | .look symbol candles _ =>
    ((b.checked? s symbol candles).map (lostIn b.settings.user s.desk)).getD []
  | .begin | .save | .meanwhile _ _ => []

/-- The exits that are lost in a row of moves. -/
def lost (b : Bot σ) (s : Session σ) : List (Move σ) → List Trade
  | [] => []
  | m :: rest => b.lostAt s m ++ ((b.move? s m).map fun s' ↦ b.lost s' rest).getD []

/-- Whether the reports `told` are those of the booked exits, up to the lost ones. -/
structure Misses (booked told : List ExitReport) (lost : List Trade) : Prop where
  length : booked.length = told.length + lost.length
  all : lost = [] → booked = told

theorem Misses.none (reports : List ExitReport) : Misses reports reports [] :=
  ⟨rfl, fun _ ↦ rfl⟩

theorem Misses.append {booked told booked' told' : List ExitReport} {lost lost' : List Trade}
    (h : Misses booked told lost) (h' : Misses booked' told' lost') :
    Misses (booked ++ booked') (told ++ told') (lost ++ lost') := by
  refine ⟨?_, fun nothing ↦ ?_⟩
  · simp only [List.length_append, h.length, h'.length]
    omega
  · obtain ⟨first, second⟩ := List.append_eq_nil_iff.1 nothing
    rw [h.all first, h'.all second]

theorem length_exitsOf {d d' : Desk σ} {settings : Execution.Settings} {user : String}
    {reports : List ExitReport}
    (h : Grown settings user d.ledger.history reports d'.ledger.history) :
    (d'.ledger.exitsOf user).length = (d.ledger.exitsOf user).length + reports.length := by
  have lengths := congrArg List.length h.profits
  simp only [List.length_map, List.length_append, List.length_reverse] at lengths
  rw [Ledger.exitsOf, Ledger.exitsOf, lengths, Nat.add_comm]

/-- What an operation that failed after booking exits lost is as much as it booked. -/
theorem misses_of_failed {d d' : Desk σ} {settings : Execution.Settings} {user : String}
    {reports : List ExitReport} {error : Execution.Error}
    (h : Grown settings user d.ledger.history reports d'.ledger.history) :
    Misses reports [] (lostIn user d (.failed d' error)) := by
  have lengths := length_exitsOf h
  have count : (lostIn user d (.failed d' error)).length = reports.length := by
    change ((d'.ledger.exitsOf user).take
      ((d'.ledger.exitsOf user).length - (d.ledger.exitsOf user).length)).length = _
    rw [List.length_take, lengths]
    omega
  refine ⟨?_, fun nothing ↦ ?_⟩
  · rw [count, List.length_nil, Nat.zero_add]
  · rw [nothing, List.length_nil] at count
    exact List.length_eq_zero_iff.1 count.symm

/-! ## Moves -/

theorem manageExits?_passed {now : Instant} {symbol : String} {price : Decimal}
    (writable : s.desk.Writable) (priced : s.desk.Priced)
    (h : b.manageExits? s now symbol price = some s') :
    ∃ o booked told, b.engine.check? s.desk b.settings.user symbol price = some o ∧
      b.Passed s booked told s' ∧ Misses booked told (lostIn b.settings.user s.desk o) := by
  obtain ⟨⟨d, result⟩, checked, h⟩ := Option.bind_eq_some_iff.1 h
  obtain ⟨tried, attempts, explains⟩ := Engine.check?_attempts checked
  have writable' : d.Writable := attempts.preserves Engine.exit?_writable writable
  obtain ⟨priced', grown⟩ := attempts.grown writable priced
  refine ⟨⟨d, result⟩, Engine.reports tried, ?_⟩
  cases result with
  | error error =>
    cases h
    exact ⟨[], checked, ⟨writable', priced', grown, .of_fed rfl rfl .start⟩,
      misses_of_failed grown⟩
  | ok reports =>
    obtain rfl := explains.reported reports rfl
    obtain ⟨desk, recorded⟩ := foldlM_recordExit? grown.ofUser h
    refine ⟨Engine.reports tried, checked, ⟨?_, ?_, ?_, ?_⟩, .none _⟩
    · rwa [desk]
    · rwa [desk]
    · rwa [desk]
    · exact ⟨recorded.exits, recorded.profit, recorded.fed⟩

theorem onCandles?_passed {symbol : String} {candles : List Candle} {now : Instant}
    (writable : s.desk.Writable) (priced : s.desk.Priced)
    (h : b.onCandles? s now symbol candles = some s') :
    ∃ booked told, b.Passed s booked told s' ∧
      Misses booked told (b.lostAt s (.look symbol candles now)) := by
  rw [lostAt]
  cases two : Signal.lastTwo? candles with
  | none =>
    have unchecked : b.checked? s symbol candles = none := by simp only [checked?, two]
    simp only [onCandles?, two] at h
    cases h
    rw [unchecked]
    exact ⟨[], [], .quiet writable priced rfl rfl rfl .start, .none []⟩
  | some pair =>
    obtain ⟨last, previous⟩ := pair
    simp only [onCandles?, two] at h
    by_cases isOpen : (s.desk.book.find? b.settings.user symbol).isSome
    · rw [if_pos isOpen] at h
      obtain ⟨o, booked, told, checked, passed, misses⟩ := manageExits?_passed writable priced h
      have checked' : b.checked? s symbol candles = some o := by
        simp only [checked?, two]
        rw [if_pos isOpen, checked]
      rw [checked']
      exact ⟨booked, told, passed, misses⟩
    · rw [if_neg isOpen] at h
      have unchecked : b.checked? s symbol candles = none := by
        simp only [checked?, two]
        rw [if_neg isOpen]
      rw [unchecked]
      exact ⟨[], [], (tryEntry?_look two h).passed writable priced, .none []⟩

theorem move?_passed {m : Move σ} (writable : s.desk.Writable) (priced : s.desk.Priced)
    (h : b.move? s m = some s') :
    ∃ booked told, b.Passed s booked told s' ∧ Misses booked told (b.lostAt s m) := by
  cases m with
  | begin =>
    cases h
    exact ⟨[], [], .quiet writable priced rfl rfl rfl .start, .none []⟩
  | look symbol candles now => exact onCandles?_passed writable priced h
  | save =>
    cases h
    exact ⟨[], [], .save writable priced, .none []⟩
  | meanwhile market killSwitch =>
    cases h
    exact ⟨[], [], ⟨⟨writable.online, writable.named⟩, priced, .same _, .of_fed rfl rfl .start⟩,
      .none []⟩

/-- Over a run, what was booked and what was recorded differ by what was lost. -/
theorem foldlM_move?_passed {moves : List (Move σ)} (writable : s.desk.Writable)
    (priced : s.desk.Priced) (ran : moves.foldlM b.move? s = some s') :
    ∃ booked told, b.Passed s booked told s' ∧ Misses booked told (b.lost s moves) := by
  induction moves generalizing s with
  | nil =>
    cases ran
    exact ⟨[], [], .quiet writable priced rfl rfl rfl .start, .none []⟩
  | cons m rest ih =>
    obtain ⟨middle, moved, ran⟩ := Option.bind_eq_some_iff.1 ran
    obtain ⟨booked, told, passed, misses⟩ := move?_passed writable priced moved
    obtain ⟨booked', told', passed', misses'⟩ := ih passed.writable passed.priced ran
    refine ⟨booked ++ booked', told ++ told', passed.append passed', ?_⟩
    rw [lost, moved]
    exact misses.append misses'

/-! ## Short ladders -/

/-- Without a second level a check that fails booked no exit. -/
theorem lostIn_of_short_ladder {symbol : String} {candles : List Candle}
    {o : Outcome σ (List ExitReport)} (short : b.engine.settings.ladder.levels.length ≤ 1)
    (writable : s.desk.Writable) (priced : s.desk.Priced)
    (h : b.checked? s symbol candles = some o) : lostIn b.settings.user s.desk o = [] := by
  obtain ⟨d, result⟩ := o
  have checked : ∃ price,
      b.engine.check? s.desk b.settings.user symbol price = some ⟨d, result⟩ := by
    unfold checked? at h
    split at h
    · cases h
    · split at h
      · exact ⟨_, h⟩
      · cases h
  obtain ⟨price, checked⟩ := checked
  obtain ⟨tried, attempts, explains⟩ := Engine.check?_attempts checked
  obtain ⟨-, grown⟩ := attempts.grown writable priced
  cases result with
  | ok reports => rfl
  | error error =>
    have misses : Misses (Engine.reports tried) []
        (lostIn b.settings.user s.desk (.failed d error)) := misses_of_failed grown
    have count := misses.length
    rw [explains.failed short error rfl, List.length_nil, Nat.zero_add] at count
    exact List.length_eq_zero_iff.1 count.symm

/-- With at most one level no exit is lost. -/
theorem lost_of_short_ladder {moves : List (Move σ)}
    (short : b.engine.settings.ladder.levels.length ≤ 1) (writable : s.desk.Writable)
    (priced : s.desk.Priced) : b.lost s moves = [] := by
  induction moves generalizing s with
  | nil => rfl
  | cons m rest ih =>
    rw [lost, List.append_eq_nil_iff]
    refine ⟨?_, ?_⟩
    · cases m with
      | begin | save | meanwhile => rfl
      | look symbol candles now =>
        rw [lostAt]
        cases checked : b.checked? s symbol candles with
        | none => rfl
        | some o => exact lostIn_of_short_ladder short writable priced checked
    · cases moved : b.move? s m with
      | none => rfl
      | some s' =>
        obtain ⟨booked, told, passed, -⟩ := move?_passed writable priced moved
        exact ih passed.writable passed.priced

/-! ## From the start of a bot -/

/-- Whether a session accounts for all exits of its user in the ledger: it counted them, it added up
their results, and since the manager was `start` it booked with it the net result of each of them
once and nothing else. -/
structure Accounted (b : Bot σ) (start : Risk.Manager) (s : Session σ) : Prop where
  exits : s.tally.exits = (s.desk.ledger.exitsOf b.settings.user).length
  profit : Decimal.sum? ((s.desk.ledger.exitsOf b.settings.user).reverse.map (·.profit)) =
    some s.tally.realizedProfit
  fed : ∃ nets,
    netResults? b.engine.settings b.settings.user s.desk.ledger.history = some nets ∧
      Risk.Fed b.settings.user start nets s.risk

/-- The balance of a user whose exits are accounted for moved by their net results. -/
theorem Accounted.balance {start : Risk.Manager} {x : Decimal} (h : b.Accounted start s)
    (known : start.balance? b.settings.user = some x) :
    ∃ nets y, netResults? b.engine.settings b.settings.user s.desk.ledger.history = some nets ∧
      nets.reverse.foldlM Decimal.add? x = some y ∧
      s.risk.balance? b.settings.user = some y := by
  obtain ⟨nets, shown, fed⟩ := h.fed
  obtain ⟨y, sum, reached⟩ := fed.balance known
  exact ⟨nets, y, shown, sum, reached⟩

/-- A session of a bot that did nothing yet, on a desk without trades. -/
structure Session.Fresh (s : Session σ) : Prop where
  writable : s.desk.Writable
  priced : s.desk.Priced
  history : s.desk.ledger.history = []
  tally : s.tally = Tally.zero

/-- Without records there is nothing to load and no position to restore. -/
theorem initialize?_new (b : Bot σ) (market : σ) (killSwitch : KillSwitch) (clock : Instant)
    (risk : Risk.Manager) (now : Instant) :
    b.initialize? (.new (.new market killSwitch clock) risk) now =
      if ((risk.touch b.settings.user now).stored? b.settings.user).isSome then
        some (.new (.new market killSwitch clock) (risk.touch b.settings.user now), .ok ())
      else
        ((risk.touch b.settings.user now).setBalance? b.settings.user
          (b.engine.broker.balance market) now).map fun risk ↦
            (.new (.new market killSwitch clock) risk, .ok ()) := by
  have restored : b.engine.restore (.new market killSwitch clock) =
      .ok (.new market killSwitch clock, 0) := rfl
  have loaded : risk.load Ledger.empty = (risk, .ok 0) := by
    simp [Risk.Manager.load, Ledger.sortedRiskStates, Ledger.empty, Table.sorted,
      Risk.Manager.loadRows]
  unfold initialize?
  simp only [Session.new, Desk.new, loaded] at restored ⊢
  simp only [restored]
  by_cases known : ((risk.touch b.settings.user now).stored? b.settings.user).isSome
  · rw [if_pos known]
    exact if_pos known
  · rw [if_neg known, Option.map_eq_bind]
    exact if_neg known

/-- Without records a bot starts afresh, and its start succeeds. -/
theorem initialize?_fresh {market : σ} {killSwitch : KillSwitch} {clock now : Instant}
    {risk : Risk.Manager} {result : Except String Unit}
    (h : b.initialize? (.new (.new market killSwitch clock) risk) now = some (s, result)) :
    s.Fresh ∧ result = .ok () := by
  have fresh (risk' : Risk.Manager) :
      Session.Fresh (.new (.new market killSwitch clock) risk') :=
    ⟨Desk.writable_new _ _ _, Desk.priced_new _ _ _, rfl, rfl⟩
  rw [initialize?_new] at h
  split at h
  · cases h
    exact ⟨fresh _, rfl⟩
  · obtain ⟨risk', -, h⟩ := Option.map_eq_some_iff.1 h
    cases h
    exact ⟨fresh _, rfl⟩

theorem Session.Fresh.exitsOf (fresh : s.Fresh) (user : String) :
    s.desk.ledger.exitsOf user = [] := by
  rw [Ledger.exitsOf, fresh.history]
  rfl

/-- A session accounts for its exits when everything that was booked was recorded. -/
theorem Session.Fresh.accounted {booked : List ExitReport} (fresh : s.Fresh)
    (passed : b.Passed s booked booked s') : b.Accounted s.risk s' := by
  have profits : (s'.desk.ledger.exitsOf b.settings.user).reverse.map (·.profit) =
      booked.map (·.profit) := by
    rw [List.map_reverse, Ledger.exitsOf, passed.grown.profits, fresh.history]
    simp
  obtain ⟨nets, known, fed⟩ := passed.recorded.fed
  refine ⟨?_, ?_, nets.reverse, ?_, fed⟩
  · rw [passed.recorded.exits, length_exitsOf passed.grown, fresh.exitsOf, fresh.tally]
    rfl
  · rw [profits, Decimal.sum?, ← passed.recorded.profit, fresh.tally]
    rfl
  · have before :
        netResults? b.engine.settings b.settings.user s.desk.ledger.history = some [] := by
      rw [fresh.history]
      rfl
    have shown := passed.grown.netResults?_eq before known
    rwa [List.append_nil] at shown

/-- A session accounts for its exits exactly when no exit was lost on the way to it. -/
theorem accounted_iff_nothing_lost {market : σ} {killSwitch : KillSwitch} {clock now : Instant}
    {risk : Risk.Manager} {result : Except String Unit} {events : List (Event σ)}
    (started : b.initialize? (.new (.new market killSwitch clock) risk) now = some (s, result))
    (ran : events.foldlM b.step? s = some s') :
    b.Accounted s.risk s' ↔ b.lost s (events.flatMap b.moves) = [] := by
  obtain ⟨fresh, -⟩ := initialize?_fresh started
  rw [foldlM_step?] at ran
  obtain ⟨booked, told, passed, misses⟩ := foldlM_move?_passed fresh.writable fresh.priced ran
  constructor
  · intro accounted
    have same := accounted.exits
    rw [passed.recorded.exits, length_exitsOf passed.grown, fresh.exitsOf, fresh.tally,
      misses.length] at same
    have none : (b.lost s (events.flatMap b.moves)).length = 0 := by
      change 0 + told.length = 0 + (told.length + _) at same
      omega
    exact List.length_eq_zero_iff.1 none
  · intro nothing
    obtain rfl := misses.all nothing
    exact fresh.accounted passed

/-! ## A bot that loses an exit -/

/-- A bot that trades on every signal, over a paper broker without slippage and fees.  The second
level of its ladder sells so little that the order is rounded to nothing. -/
def eagerBot : Bot Broker.Paper.State :=
  { settings := { Settings.standard with symbols := ["BTC-USD"] }
    scorer := .ofSettings { Signal.ScorerSettings.standard with minScore := 0 }
    sizing := .standard
    engine :=
      { settings := { Execution.Settings.standard with
          feeRate := Decimal.zero
          ladder := ⟨[⟨Decimal.const 20 3, Decimal.const 5 1⟩,
            ⟨Decimal.const 25 3, Decimal.const 1 10⟩], Decimal.zero⟩ }
        broker := Broker.Paper.broker .free } }

/-- The session of the bot before its start, at a price of 100. -/
def eagerStart : Session Broker.Paper.State :=
  .new (.new ((Broker.Paper.State.new .free).setPrice "BTC-USD" (Decimal.const 100 0))
    (KillSwitch.new none) Instant.epoch) (.new Risk.Settings.standard)

/-- A candle without movement. -/
def flat (price : Nat) : Candle :=
  let price := Decimal.const price 0
  ⟨Instant.epoch, price, price, price, price, Decimal.const 10 0⟩

/-- The price rises to 103 after the bot looked at two candles at 100, and it looks again. -/
def rise : List (Event Broker.Paper.State) :=
  [.look "BTC-USD" [flat 100, flat 100] Instant.epoch,
    .meanwhile (·.setPrice "BTC-USD" (Decimal.const 103 0)) id,
    .look "BTC-USD" [flat 100, flat 103] Instant.epoch]

/-- A long entry on a signal of any score. -/
def enterLong? (b : Bot σ) (s : Session σ) (now : Instant) (symbol : String)
    (candles : List Candle) (previous last : Candle) : Option (Session σ) := do
  let i ← Signal.Indicators.ofCandles? candles
  let signal ← b.scorer.score? .buy previous last i
  let s := ((s.count Tally.countEvaluated).count Tally.countAllowed).touch b.settings.user now
  let exposure ← exposure? s.desk b.settings.user
  let size ← Sizing.size? b.sizing (s.balance b.settings.user) signal.score s.history exposure
  if size ≤ Decimal.zero then
    some s
  else
    b.sendEntry? s now ⟨b.settings.user, symbol, .buy, size, last.close⟩

/-- Without a minimum score every long signal is allowed, so that no indicator bears on an entry. -/
theorem tryEntry?_of_no_minimum {now : Instant} {symbol : String} {candles : List Candle}
    {previous last : Candle} (low : b.scorer.settings.minScore = 0)
    (long : b.settings.allowShort = false) :
    b.tryEntry? s now symbol candles previous last =
      b.enterLong? s now symbol candles previous last := by
  refine congrArg (Signal.Indicators.ofCandles? candles).bind (funext fun i ↦ ?_)
  have signals : b.bestSignal? previous last i =
      (b.scorer.score? .buy previous last i).map fun signal ↦ some (.buy, signal) := by
    rw [bestSignal?, Settings.sides, long]
    cases scored : b.scorer.score? .buy previous last i with
    | none => simp [scored]
    | some signal =>
      obtain ⟨conditions, -, made⟩ := Option.bind_eq_some_iff.1 scored
      have allowed : signal.allowed = true := by
        cases made
        exact decide_eq_true (low ▸ Nat.zero_le _)
      simp [scored, allowed, better]
  change (b.bestSignal? previous last i).bind _ = (b.scorer.score? .buy previous last i).bind _
  rw [signals]
  cases b.scorer.score? .buy previous last i <;> rfl

theorem look_of_enterLong? {now : Instant} {symbol : String} {previous last : Candle}
    (low : b.scorer.settings.minScore = 0) (long : b.settings.allowShort = false)
    (absent : ¬(s.desk.book.find? b.settings.user symbol).isSome)
    (entered : b.enterLong? s now symbol [previous, last] previous last = some s') :
    b.onCandles? s now symbol [previous, last] = some s' := by
  change (if (s.desk.book.find? b.settings.user symbol).isSome then _ else _) = _
  rw [if_neg absent, tryEntry?_of_no_minimum low long]
  exact entered

/-- Of the rise, one exit is in the ledger and none in the tally. -/
theorem rise_run : ∃ s₀ s, eagerBot.initialize? eagerStart Instant.epoch = some (s₀, .ok ()) ∧
    rise.foldlM eagerBot.step? s₀ = some s ∧ s.tally.exits = 0 ∧
      (s.desk.ledger.exitsOf "default").length = 1 := by
  -- the kernel cannot compute the indicators, so the first look is evaluated without them
  have ran : ((eagerBot.initialize? eagerStart Instant.epoch).any fun start ↦
      !(start.1.desk.book.find? "default" "BTC-USD").isSome &&
        (eagerBot.enterLong? start.1 Instant.epoch "BTC-USD" [flat 100, flat 100] (flat 100)
            (flat 100)).any fun entered ↦
          (eagerBot.onCandles? (entered.outside (·.setPrice "BTC-USD" (Decimal.const 103 0)) id)
            Instant.epoch "BTC-USD" [flat 100, flat 103]).any fun last ↦
              decide (last.tally.exits = 0) &&
                decide ((last.desk.ledger.exitsOf "default").length = 1)) = true := by
    decide +kernel
  obtain ⟨⟨s₀, result⟩, started, ran⟩ := (Option.any_eq_true _ _).1 ran
  obtain ⟨closed, ran⟩ := Bool.and_eq_true_iff.1 ran
  obtain ⟨s₁, entered, ran⟩ := (Option.any_eq_true _ _).1 ran
  obtain ⟨s₂, looked, ran⟩ := (Option.any_eq_true _ _).1 ran
  obtain ⟨counted, booked⟩ := Bool.and_eq_true_iff.1 ran
  obtain ⟨-, rfl⟩ := initialize?_fresh started
  refine ⟨s₀, s₂, started, ?_, of_decide_eq_true counted, of_decide_eq_true booked⟩
  have absent : ¬(s₀.desk.book.find? "default" "BTC-USD").isSome := by simpa using closed
  have first :
      eagerBot.step? s₀ (.look "BTC-USD" [flat 100, flat 100] Instant.epoch) = some s₁ :=
    look_of_enterLong? rfl rfl absent entered
  have second : eagerBot.step? s₁ (.meanwhile (·.setPrice "BTC-USD" (Decimal.const 103 0)) id) =
      some (s₁.outside (·.setPrice "BTC-USD" (Decimal.const 103 0)) id) := rfl
  have third : eagerBot.step? (s₁.outside (·.setPrice "BTC-USD" (Decimal.const 103 0)) id)
      (.look "BTC-USD" [flat 100, flat 103] Instant.epoch) = some s₂ := looked
  simp only [rise, List.foldlM_cons, List.foldlM_nil, Option.bind_eq_bind, first, second, third,
    Option.bind_some]
  rfl

/-- A session need not account for the exits in the ledger. -/
theorem exits_can_go_unaccounted : ∃ s₀ s,
    eagerBot.initialize? eagerStart Instant.epoch = some (s₀, .ok ()) ∧
      rise.foldlM eagerBot.step? s₀ = some s ∧ ¬eagerBot.Accounted s₀.risk s := by
  obtain ⟨s₀, s, started, ran, counted, booked⟩ := rise_run
  refine ⟨s₀, s, started, ran, fun accounted ↦ ?_⟩
  have same : s.tally.exits = (s.desk.ledger.exitsOf "default").length := accounted.exits
  rw [counted, booked] at same
  cases same

/-- The rise loses an exit. -/
theorem accounted_iff_nothing_lost_rise : ∃ s₀ s,
    eagerBot.initialize? eagerStart Instant.epoch = some (s₀, .ok ()) ∧
      rise.foldlM eagerBot.step? s₀ = some s ∧ s.tally.exits = 0 ∧
      (s.desk.ledger.exitsOf "default").length = 1 ∧
      (eagerBot.Accounted s₀.risk s ↔ eagerBot.lost s₀ (rise.flatMap eagerBot.moves) = []) := by
  obtain ⟨s₀, s, started, ran, counted, booked⟩ := rise_run
  exact ⟨s₀, s, started, ran, counted, booked, accounted_iff_nothing_lost started ran⟩

end TradingDesk.Bot
