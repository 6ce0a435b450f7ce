import TradingDesk.Backtest.Replay
import TradingDesk.Proofs.Bot.Accounting
import TradingDesk.Proofs.Bot.Times

/-!
# No Look-Ahead

The market data of a backtest holds the whole series from the start.  What it shows at a candle are
the latest candles up to that one, whatever comes behind, so a replay cannot act on the future.  Two
backtests over series that agree up to a candle are in step after it: they sent the same orders,
made the same trades, and hold the same positions, money and tally.
-/

namespace TradingDesk.Backtest

open Execution Risk

variable {clock clock' : Nat → Instant}

/-! ## What is visible -/

namespace Series

/-- The window at a candle is read off the candles up to it. -/
theorem window_advanceTo (f : Series) (count limit : Nat) :
    (f.advanceTo count).window limit =
      (f.candles.take count).drop ((f.candles.take count).length - limit) := by
  rw [window, advanceTo, ← List.take_eq_take_min, List.length_take]

/-- Series that agree up to a candle show the same at every candle before. -/
theorem feed_advanceTo_eq {f f' : Series} {k count : Nat} (le : count ≤ k)
    (agree : f.candles.take k = f'.candles.take k) :
    (f.advanceTo count).feed = (f'.advanceTo count).feed := by
  have seen : f.candles.take count = f'.candles.take count := by
    rw [← Nat.min_eq_left le, ← List.take_take, agree, List.take_take]
  funext symbol limit
  rw [feed, feed, window_advanceTo, window_advanceTo, seen]

end Series

namespace Replay

theorem take_closes (candles : List Candle) (k : Nat) :
    (closes candles).take k = closes (candles.take k) := by
  have numbered (prices : List Decimal) (first : Nat) :
      (prices.zipIdx first).take k = (prices.take k).zipIdx first := by
    induction prices generalizing k first with
    | nil => simp
    | cons price prices ih =>
      cases k with
      | zero => rfl
      | succ k =>
        rw [List.zipIdx_cons, List.take_succ_cons, ih, List.take_succ_cons, List.zipIdx_cons]
  rw [closes, numbered, ← List.map_take, closes]

theorem place_lt {candles : List Candle} {k : Nat} {bar : Decimal × Nat}
    (mem : bar ∈ (closes candles).take k) : bar.2 < k := by
  rw [take_closes] at mem
  have inside := List.snd_lt_of_mem_zipIdx mem
  rw [List.length_map, List.length_take] at inside
  omega

/-! ## One candle -/

/-- A candle whose tick goes through, with the worth of its session and the fall from the peak. -/
theorem step?_of_ticked (clock : Nat → Instant) {s : Settings} {r : Replay}
    {close equity : Decimal} {place : Nat} {session : Bot.Session Broker.Paper.State} {fall : Float}
    (ticked : s.trader.tick? (r.series.advanceTo (place + 1)).feed (clock (place + 1))
      (mark r.session s.symbol close) = some session)
    (worth : session.desk.market.equity? = some equity)
    (fallen : fall? (if r.peak < equity then equity else r.peak) equity = some fall) :
    step? s clock r (close, place) = some
      { session := session
        series := r.series.advanceTo (place + 1)
        peak := if r.peak < equity then equity else r.peak
        maxDrawdown := Binary64.max r.maxDrawdown fall } := by
  simp [step?, ticked, worth, Replay.withEquity?, fallen]

/-- Whether two replays over series that agree up to a candle are the same so far but for times. -/
structure InStep (clock clock' : Nat → Instant) (k : Nat) (r r' : Replay) : Prop where
  session : r.session.InStep clock clock' r'.session
  agree : r.series.candles.take k = r'.series.candles.take k
  peak : r.peak = r'.peak
  maxDrawdown : r.maxDrawdown = r'.maxDrawdown

variable {s : Settings} {r r' : Replay} {k : Nat}

theorem mark_inStep {b b' : Bot.Session Broker.Paper.State} (h : b.InStep clock clock' b')
    (symbol : String) (price : Decimal) :
    (mark b symbol price).InStep clock clock' (mark b' symbol price) := by
  refine h.withDesk ⟨?_, h.desk.book, h.desk.ledger, h.desk.killSwitch, h.desk.sent, h.desk.serial⟩
  rw [h.desk.market]

theorem InStep.withEquity? (h : r.InStep clock clock' k r') (equity : Decimal) :
    Option.Rel (InStep clock clock' k) (r.withEquity? equity) (r'.withEquity? equity) := by
  unfold Replay.withEquity?
  rw [h.peak, h.maxDrawdown]
  exact rel_bind_same _ fun fall ↦ .some ⟨h.session, h.agree, rfl, rfl⟩

/-- Replays in step see the same at a candle up to which their series agree, and stay in step. -/
theorem step?_inStep (h : r.InStep clock clock' k r') (turn : TurnTogether clock clock')
    {bar : Decimal × Nat} (early : bar.2 < k) :
    Option.Rel (InStep clock clock' k) (step? s clock r bar) (step? s clock' r' bar) := by
  obtain ⟨close, place⟩ := bar
  have seen := Series.feed_advanceTo_eq early h.agree
  unfold step?
  dsimp only
  rw [seen]
  refine rel_bind (s.trader.tick?_inStep (mark_inStep h.session s.symbol close) turn _ _)
    fun b b' _ ticked ↦ ?_
  rw [ticked.desk.market]
  refine rel_bind_same _ fun equity ↦ InStep.withEquity? ?_ equity
  exact ⟨ticked, h.agree, h.peak, h.maxDrawdown⟩

/-! ## A run -/

theorem run?_inStep (h : r.InStep clock clock' k r') (turn : TurnTogether clock clock')
    {bars : List (Decimal × Nat)} (early : ∀ bar ∈ bars, bar.2 < k) :
    Option.Rel (InStep clock clock' k) (run? s clock r bars) (run? s clock' r' bars) :=
  rel_foldlM h fun bar mem _ _ between ↦ step?_inStep between turn (early bar mem)

/-- Whether two replays sent the same orders, made the same trades, and hold the same positions,
money, counters and drawdown, but for times. -/
structure SameButTimes (r r' : Replay) : Prop where
  sent : r.session.desk.sent = r'.session.desk.sent
  trades : r.session.desk.ledger.trades.map Ledger.TradeRow.timeless =
    r'.session.desk.ledger.trades.map Ledger.TradeRow.timeless
  positions : r.session.desk.ledger.positions.map Ledger.PositionRow.timeless =
    r'.session.desk.ledger.positions.map Ledger.PositionRow.timeless
  book : r.session.desk.book.map Position.timeless = r'.session.desk.book.map Position.timeless
  cash : r.session.desk.market.cash = r'.session.desk.market.cash
  holdings : r.session.desk.market.holdings = r'.session.desk.market.holdings
  tally : r.session.tally = r'.session.tally
  maxDrawdown : r.maxDrawdown = r'.maxDrawdown

theorem InStep.sameButTimes (h : r.InStep clock clock' k r') : r.SameButTimes r' :=
  ⟨h.session.desk.sent, h.session.desk.ledger.trades, h.session.desk.ledger.positions,
    h.session.desk.book, congrArg (·.cash) h.session.desk.market,
    congrArg (·.holdings) h.session.desk.market, h.session.tally, h.maxDrawdown⟩

end Replay

namespace Settings

/-- The session of a backtest that has started, with its capital as the balance of its user. -/
def startedSession (s : Settings) (now : Instant) : Bot.Session Broker.Paper.State :=
  .new (.new (.new s.paper) (.new none) now)
    ((Manager.new s.risk).file s.bot.user (.new s.bot.user s.initialCapital now))

theorem initialize?_firstSession (s : Settings) (now : Instant) :
    s.trader.initialize? (s.firstSession now) now = some (s.startedSession now, .ok ()) :=
  Bot.initialize?_new _ _ _ _ _ _

theorem startedSession_inStep (s : Settings) :
    (s.startedSession (clock 0)).InStep clock clock' (s.startedSession (clock' 0)) := by
  have managers : (Manager.new s.risk).InStep clock clock' (.new s.risk) :=
    ⟨fun _ ↦ rfl, fun _ ↦ .none⟩
  exact ⟨⟨rfl, rfl, ⟨rfl, rfl, rfl⟩, rfl, rfl, rfl⟩, managers.file _ (State.inStep_new _ _ 0), rfl,
    rfl⟩

/-- With enough candles, a backtest starts and replays. -/
theorem course?_eq {s : Settings} {candles : List Candle} (enough : s.leastCandles < candles.length)
    (clock : Nat → Instant) (k : Nat) :
    s.course? clock candles k =
      (Replay.run? s clock (.start s (s.startedSession (clock 0)) candles)
        (((Replay.closes candles).take k).drop s.warmup)).map .ok := by
  rw [course?, if_neg (Nat.not_le.2 enough), initialize?_firstSession, Option.map_eq_bind]
  rfl

/-- Whether two courses, where they come about, are the same but for times. -/
def CoursesAgree (x x' : Except Error Replay) : Prop :=
  ∃ r r', x = .ok r ∧ x' = .ok r' ∧ r.SameButTimes r'

/-- There is no look-ahead: backtests over series that agree on their first candles are the same
after these, but for times.  A fault by amounts that leave their range comes about in both or in
neither.  The clocks of the two runs may differ, as long as they turn together. -/
theorem no_look_ahead (s : Settings) {xs ys : List Candle} {k : Nat}
    (enough : s.leastCandles < xs.length) (enough' : s.leastCandles < ys.length)
    (agree : xs.take k = ys.take k) (turn : TurnTogether clock clock') :
    Option.Rel CoursesAgree (s.course? clock xs k) (s.course? clock' ys k) := by
  have start : (Replay.start s (s.startedSession (clock 0)) xs).InStep clock clock' k
      (.start s (s.startedSession (clock' 0)) ys) :=
    ⟨s.startedSession_inStep, agree, rfl, rfl⟩
  have early : ∀ bar ∈ ((Replay.closes ys).take k).drop s.warmup, bar.2 < k :=
    fun _ mem ↦ Replay.place_lt (List.mem_of_mem_drop mem)
  rw [course?_eq enough, course?_eq enough', Replay.take_closes, agree, ← Replay.take_closes]
  exact rel_map (Replay.run?_inStep start turn early) fun r r' both ↦
    ⟨r, r', rfl, rfl, both.sameButTimes⟩

end Settings

/-! ## Two futures of one entry -/

/-- A backtest without costs that trades on every signal from its third candle on. -/
def eagerSettings : Settings :=
  { Settings.standard with
    slippage := Decimal.zero
    feeRate := Decimal.zero
    warmup := 2
    scorer := { Signal.ScorerSettings.standard with minScore := 0 }
    bot := { Bot.Settings.standard with candleLimit := 2 } }

/-- Three candles at 100, and then others. -/
def threeFlat (later : List Candle) : List Candle :=
  Bot.flat 100 :: Bot.flat 100 :: Bot.flat 100 :: later

/-- The session of the backtest at the third candle, before its tick. -/
def eagerMarked : Bot.Session Broker.Paper.State :=
  Replay.mark (eagerSettings.startedSession .epoch) "BTC-USD" (Bot.flat 100).close

/-- On a source that shows two candles at 100, a tick sends one entry. -/
theorem eager_tick {feed : Bot.Feed}
    (shown : feed "BTC-USD" 2 = some [Bot.flat 100, Bot.flat 100]) :
    ∃ s equity fall, eagerSettings.trader.tick? feed .epoch eagerMarked = some s ∧
      s.desk.market.equity? = some equity ∧
      Replay.fall? (if eagerSettings.initialCapital < equity then equity
        else eagerSettings.initialCapital) equity = some fall ∧ s.desk.sent.length = 1 := by
  -- the kernel cannot compute the indicators, so the look is evaluated without them
  have ran : ¬(eagerMarked.desk.book.find? "default" "BTC-USD").isSome ∧
      ∃ s ∈ eagerSettings.trader.enterLong? (eagerMarked.count Bot.Tally.countTick) .epoch
        "BTC-USD" [Bot.flat 100, Bot.flat 100] (Bot.flat 100) (Bot.flat 100),
      s.save.desk.sent.length = 1 ∧ ∃ equity ∈ s.save.desk.market.equity?,
        (Replay.fall? (if eagerSettings.initialCapital < equity then equity
          else eagerSettings.initialCapital) equity).isSome := by
    decide +kernel
  obtain ⟨absent, s, entered, sent, equity, worth, fallen⟩ := ran
  obtain ⟨fall, fallen⟩ := Option.isSome_iff_exists.1 fallen
  refine ⟨s.save, equity, fall, ?_, worth, fallen, sent⟩
  have visited : eagerSettings.trader.visit? feed .epoch (eagerMarked.count Bot.Tally.countTick)
      "BTC-USD" = some s := by
    have limit : eagerSettings.trader.settings.candleLimit = 2 := rfl
    rw [Bot.visit?, limit, shown]
    exact Bot.look_of_enterLong? rfl rfl absent entered
  have symbols : eagerSettings.trader.settings.symbols = ["BTC-USD"] := rfl
  rw [Bot.tick?, symbols, List.foldlM_cons, visited]
  rfl

/-- At the third candle an entry is sent. -/
theorem eager_course (later : List Candle) : ∃ r,
    eagerSettings.course? (fun _ ↦ .epoch) (threeFlat later) 3 = some (.ok r) ∧
      r.session.desk.sent.length = 1 := by
  have enough : eagerSettings.leastCandles < (threeFlat later).length := by
    change 2 < later.length + 3
    omega
  have shown : ((Series.ofCandles (threeFlat later)).advanceTo 3).feed "BTC-USD" 2 =
      some [Bot.flat 100, Bot.flat 100] := by
    rw [Series.feed, Series.window_advanceTo]
    rfl
  obtain ⟨s, equity, fall, ticked, worth, fallen, sent⟩ := eager_tick shown
  have bars : ((Replay.closes (threeFlat later)).take 3).drop eagerSettings.warmup =
      [((Bot.flat 100).close, 2)] := rfl
  have replayed := Replay.step?_of_ticked (fun _ ↦ .epoch)
    (r := .start eagerSettings (eagerSettings.startedSession .epoch) (threeFlat later))
    ticked worth fallen
  rw [Settings.course?_eq enough, bars, Replay.run?, List.foldlM_cons, replayed]
  exact ⟨_, rfl, sent⟩

theorem no_look_ahead_threeFlat : ∃ r r',
    eagerSettings.course? (fun _ ↦ .epoch) (threeFlat [Bot.flat 110]) 3 = some (.ok r) ∧
      eagerSettings.course? (fun _ ↦ ⟨1000000, 0⟩) (threeFlat [Bot.flat 90, Bot.flat 80]) 3 =
        some (.ok r') ∧
      r.session.desk.sent.length = 1 ∧ r.SameButTimes r' := by
  obtain ⟨r, ran, sent⟩ := eager_course [Bot.flat 110]
  have both : Option.Rel Settings.CoursesAgree
      (eagerSettings.course? (fun _ ↦ .epoch) (threeFlat [Bot.flat 110]) 3)
      (eagerSettings.course? (fun _ ↦ ⟨1000000, 0⟩) (threeFlat [Bot.flat 90, Bot.flat 80]) 3) :=
    eagerSettings.no_look_ahead (by decide) (by decide) rfl (turnTogether_const _ _)
  rw [ran] at both
  generalize eagerSettings.course? (fun _ ↦ ⟨1000000, 0⟩) _ 3 = course at both ⊢
  cases both with
  | some both =>
    obtain ⟨r₁, r', first, rfl, same⟩ := both
    cases first
    exact ⟨r, r', ran, rfl, sent, same⟩

end TradingDesk.Backtest
