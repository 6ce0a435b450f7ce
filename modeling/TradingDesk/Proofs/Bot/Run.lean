import TradingDesk.Bot.Session
import TradingDesk.Proofs.Execution.Results
import TradingDesk.Proofs.Risk.Feed

/-!
# Runs of a Bot

A bot looks at symbols: in a tick at each of them, and whenever it is handed candles at one.
Between its steps the market moves and switches are thrown.  A tick is a row of smaller moves, which
begin with counting it and end with saving the risk states, so that a law about runs is proved move
by move.

Every move puts entries and exits into the ledger and records some exits with the tally and the risk
manager.  What was put there and what was recorded are followed apart.
-/

namespace TradingDesk.Bot

open Execution

variable {σ : Type}

/-! ## Steps and moves -/

/-- A step of a bot, or what happens between two of them. -/
inductive Event (σ : Type) where
  | tick (feed : Feed) (now : Instant)
  | look (symbol : String) (candles : List Candle) (now : Instant)
  | meanwhile (market : σ → σ) (killSwitch : KillSwitch → KillSwitch)

/-- A part of a step. -/
inductive Move (σ : Type) where
  | begin
  | look (symbol : String) (candles : List Candle) (now : Instant)
  | save
  | meanwhile (market : σ → σ) (killSwitch : KillSwitch → KillSwitch)

/-- The session after the market moved and switches were thrown. -/
def Session.outside (s : Session σ) (market : σ → σ) (killSwitch : KillSwitch → KillSwitch) :
    Session σ :=
  { s with desk := { s.desk with
      market := market s.desk.market
      killSwitch := killSwitch s.desk.killSwitch } }

/-- The session after an event. -/
def step? (b : Bot σ) (s : Session σ) : Event σ → Option (Session σ)
  | .tick feed now => b.tick? feed now s
  | .look symbol candles now => b.onCandles? s now symbol candles
  | .meanwhile market killSwitch => some (s.outside market killSwitch)

/-- The session after a move. -/
def move? (b : Bot σ) (s : Session σ) : Move σ → Option (Session σ)
  | .begin => some (s.count Tally.countTick)
  | .look symbol candles now => b.onCandles? s now symbol candles
  | .save => some s.save
  | .meanwhile market killSwitch => some (s.outside market killSwitch)

/-- The moves of an event. -/
def moves (b : Bot σ) : Event σ → List (Move σ)
  | .tick feed now =>
    .begin :: b.settings.symbols.filterMap (fun symbol ↦
      (feed symbol b.settings.candleLimit).map fun candles ↦ .look symbol candles now) ++ [.save]
  | .look symbol candles now => [.look symbol candles now]
  | .meanwhile market killSwitch => [.meanwhile market killSwitch]

theorem step?_eq_moves (b : Bot σ) (s : Session σ) (event : Event σ) :
    b.step? s event = (b.moves event).foldlM b.move? s := by
  cases event with
  | look symbol candles now =>
    rw [moves, List.foldlM_cons]
    exact (bind_pure _).symm
  | meanwhile market killSwitch => rfl
  | tick feed now =>
    have visits (s : Session σ) : (b.settings.symbols.filterMap fun symbol ↦
        (feed symbol b.settings.candleLimit).map fun candles ↦
          Move.look symbol candles now).foldlM b.move? s =
        b.settings.symbols.foldlM (b.visit? feed now) s := by
      rw [List.foldlM_filterMap]
      congr 1
      funext s symbol
      rw [visit?]
      cases feed symbol b.settings.candleLimit <;> rfl
    rw [moves, List.cons_append, List.foldlM_cons]
    change _ = List.foldlM b.move? (s.count Tally.countTick) _
    rw [List.foldlM_append, visits]
    rfl

/-- A run over events is a run over their moves. -/
theorem foldlM_step? (b : Bot σ) (events : List (Event σ)) (s : Session σ) :
    events.foldlM b.step? s = (events.flatMap b.moves).foldlM b.move? s := by
  induction events generalizing s with
  | nil => rfl
  | cons event events ih =>
    rw [List.foldlM_cons, List.flatMap_cons, List.foldlM_append, step?_eq_moves]
    congr 1
    funext s'
    exact ih s'

/-! ## What was recorded -/

/-- Whether reports were recorded one after another between two sessions: with the tally, and with
the risk manager, which booked the net result of each of them once. -/
structure Recorded (user : String) (s : Session σ) (told : List ExitReport) (s' : Session σ) :
    Prop where
  exits : s'.tally.exits = s.tally.exits + told.length
  profit : (told.map (·.profit)).foldlM Decimal.add? s.tally.realizedProfit =
    some s'.tally.realizedProfit
  fed : ∃ nets, told.mapM (·.netProfit?) = some nets ∧ Risk.Fed user s.risk nets.reverse s'.risk

variable {user : String} {s s' s'' : Session σ}

theorem Recorded.append {told later : List ExitReport} (h : Recorded user s told s')
    (h' : Recorded user s' later s'') : Recorded user s (told ++ later) s'' := by
  obtain ⟨nets, known, fed⟩ := h.fed
  obtain ⟨nets', known', fed'⟩ := h'.fed
  refine ⟨?_, ?_, nets ++ nets', ?_, ?_⟩
  · rw [h'.exits, h.exits, List.length_append, Nat.add_assoc]
  · rw [List.map_append, List.foldlM_append, h.profit]
    exact h'.profit
  · rw [List.mapM_append, known, known']
    rfl
  · rw [List.reverse_append]
    exact fed.append fed'

theorem Recorded.of_fed (exits : s'.tally.exits = s.tally.exits)
    (profit : s'.tally.realizedProfit = s.tally.realizedProfit)
    (fed : Risk.Fed user s.risk [] s'.risk) : Recorded user s [] s' :=
  ⟨exits, congrArg some profit.symm, [], rfl, fed⟩

/-- What recording an exit takes: its net result is counted and booked. -/
theorem Session.recordExit?_eq_some {now : Instant} {r : ExitReport}
    (h : s.recordExit? now r = some s') :
    ∃ net tally returns risk tripped, r.netProfit? = some net ∧ s.tally.countExit? r = some tally ∧
      s.risk.recordTrade? r.user net now = some (risk, tripped) ∧
      s' = ⟨s.desk, risk, tally, returns⟩ := by
  obtain ⟨net, known, h⟩ := Option.bind_eq_some_iff.1 h
  obtain ⟨tally, counted, h⟩ := Option.bind_eq_some_iff.1 h
  obtain ⟨returned, -, h⟩ := Option.bind_eq_some_iff.1 h
  obtain ⟨⟨risk, tripped⟩, booked, h⟩ := Option.bind_eq_some_iff.1 h
  cases h
  exact ⟨net, tally, _, risk, tripped, known, counted, booked, rfl⟩

theorem Session.recordExit?_recorded {now : Instant} {r : ExitReport}
    (h : s.recordExit? now r = some s') :
    s'.desk = s.desk ∧ Recorded r.user s [r] s' := by
  obtain ⟨net, tally, returns, risk, tripped, known, counted, booked, rfl⟩ := recordExit?_eq_some h
  obtain ⟨profit, gained, counted⟩ := Option.bind_eq_some_iff.1 counted
  obtain ⟨both, -, counted⟩ := Option.bind_eq_some_iff.1 counted
  obtain ⟨fees, -, counted⟩ := Option.bind_eq_some_iff.1 counted
  cases counted
  refine ⟨rfl, rfl, ?_, [net], ?_, .traded .start booked⟩
  · rw [List.map_cons, List.foldlM_cons, gained]
    rfl
  · rw [List.mapM_cons, known]
    rfl

theorem foldlM_recordExit? {now : Instant} {reports : List ExitReport}
    (ofUser : ∀ r ∈ reports, r.user = user)
    (h : reports.foldlM (fun s r ↦ s.recordExit? now r) s = some s') :
    s'.desk = s.desk ∧ Recorded user s reports s' := by
  induction reports generalizing s with
  | nil =>
    cases h
    exact ⟨rfl, .of_fed rfl rfl .start⟩
  | cons r reports ih =>
    obtain ⟨middle, first, rest⟩ := Option.bind_eq_some_iff.1 h
    obtain ⟨desk, recorded⟩ := Session.recordExit?_recorded first
    obtain ⟨desk', recorded'⟩ := ih (fun r mem ↦ ofUser r (List.mem_cons_of_mem _ mem)) rest
    rw [ofUser r List.mem_cons_self] at recorded
    exact ⟨desk'.trans desk, recorded.append recorded'⟩

/-! ## What a bot leaves behind -/

/-- What lies between two sessions of a bot: the exits with the reports `booked` were put into the
ledger, and the reports `told` were recorded. -/
structure Passed (b : Bot σ) (s : Session σ) (booked told : List ExitReport) (s' : Session σ) :
    Prop where
  writable : s'.desk.Writable
  priced : s'.desk.Priced
  grown : Grown b.engine.settings b.settings.user s.desk.ledger.history booked
    s'.desk.ledger.history
  recorded : Recorded b.settings.user s told s'

variable {b : Bot σ}

theorem Passed.append {booked told booked' told' : List ExitReport} (h : b.Passed s booked told s')
    (h' : b.Passed s' booked' told' s'') : b.Passed s (booked ++ booked') (told ++ told') s'' :=
  ⟨h'.writable, h'.priced, h.grown.append h'.grown, h.recorded.append h'.recorded⟩

theorem Passed.quiet (writable : s.desk.Writable) (priced : s.desk.Priced)
    (desk : s'.desk = s.desk) (exits : s'.tally.exits = s.tally.exits)
    (profit : s'.tally.realizedProfit = s.tally.realizedProfit)
    (fed : Risk.Fed b.settings.user s.risk [] s'.risk) : b.Passed s [] [] s' := by
  refine ⟨?_, ?_, ?_, .of_fed exits profit fed⟩
  · rwa [desk]
  · rwa [desk]
  · rw [desk]
    exact .same _

theorem Session.history_save (s : Session σ) :
    s.save.desk.ledger.history = s.desk.ledger.history :=
  Ledger.history_of_trades (s.risk.trades_save s.desk.ledger).1

theorem Session.writable_save (writable : s.desk.Writable) : s.save.desk.Writable := by
  obtain ⟨trades, outages⟩ := s.risk.trades_save s.desk.ledger
  refine ⟨outages.trans writable.online, ?_⟩
  intro row mem
  exact writable.named row (trades ▸ mem)

theorem Passed.save (writable : s.desk.Writable) (priced : s.desk.Priced) :
    b.Passed s [] [] s.save := by
  refine ⟨Session.writable_save writable, ?_, ?_, .of_fed rfl rfl .start⟩
  · intro user symbol p held
    rw [s.history_save]
    exact priced user symbol p held
  · rw [s.history_save]
    exact .same _

/-! ## Looks for an entry -/

/-- The ways in which a look for an entry ends: it leaves the desk alone, or it sends one entry.  It
records no exit. -/
inductive EntryLook (b : Bot σ) (s : Session σ) (symbol : String) (s' : Session σ) : Prop
  | quiet (desk : s'.desk = s.desk) (recorded : Recorded b.settings.user s [] s') :
      EntryLook b s symbol s'
  | sent {entry : Entry} {o : Outcome σ Position} (ofUser : entry.user = b.settings.user)
      (inSymbol : entry.symbol = symbol) (entered : b.engine.enter? s.desk entry = some o)
      (desk : s'.desk = o.desk) (recorded : Recorded b.settings.user s [] s') :
      EntryLook b s symbol s'

theorem EntryLook.after {symbol : String} (h : EntryLook b s' symbol s'') (desk : s'.desk = s.desk)
    (recorded : Recorded b.settings.user s [] s') : EntryLook b s symbol s'' := by
  cases h with
  | quiet desk' recorded' => exact .quiet (desk'.trans desk) (recorded.append recorded')
  | sent ofUser inSymbol entered desk' recorded' =>
    rw [desk] at entered
    exact .sent ofUser inSymbol entered desk' (recorded.append recorded')

/-- The ways in which sending an entry ends: the risk manager denies it, it fails, or it goes through
and is counted. -/
inductive SendStep (b : Bot σ) (s : Session σ) (now : Instant) (entry : Entry) : Session σ → Prop
  | denied : SendStep b s now entry ((s.touch b.settings.user now).count Tally.countRejection)
  | failed {d : Desk σ} {error : Execution.Error}
      (allowed : s.risk.check? b.settings.user entry.size (s.desk.book.count b.settings.user) now =
        some none)
      (entered : b.engine.enter? s.desk entry = some ⟨d, .error error⟩) :
      SendStep b s now entry
        ({ s.touch b.settings.user now with desk := d }.count Tally.countFailure)
  | entered {d : Desk σ} {p : Position} {risk : Risk.Manager}
      (allowed : s.risk.check? b.settings.user entry.size (s.desk.book.count b.settings.user) now =
        some none)
      (entered : b.engine.enter? s.desk entry = some ⟨d, .ok p⟩)
      (counted : Risk.Manager.recordEntry? (s.risk.touch b.settings.user now) b.settings.user now =
        some risk) :
      SendStep b s now entry ({ s with desk := d, risk := risk }.count Tally.countEntry)

theorem sendEntry?_step {now : Instant} {entry : Entry} (h : b.sendEntry? s now entry = some s') :
    b.SendStep s now entry s' := by
  obtain ⟨denial, checked, h⟩ := Option.bind_eq_some_iff.1 h
  have checked : s.risk.check? b.settings.user entry.size (s.desk.book.count b.settings.user) now =
      some denial :=
    (Risk.Manager.check?_touch _ _ _ _ _).symm.trans checked
  cases denial with
  | some denial =>
    cases h
    exact .denied
  | none =>
    obtain ⟨⟨d, result⟩, entered, h⟩ := Option.bind_eq_some_iff.1 h
    cases result with
    | error error =>
      cases h
      exact .failed checked entered
    | ok p =>
      obtain ⟨risk, counted, h⟩ := Option.bind_eq_some_iff.1 h
      cases h
      exact .entered checked entered counted

/-- The entry that a look at candles proposes: on the side of the best allowed signal, of the size
that the sizer gives for its score, at the last close. -/
inductive Proposes (b : Bot σ) (s : Session σ) (symbol : String) (candles : List Candle)
    (now : Instant) : Entry → Prop
  | best {last previous : Candle} {i : Signal.Indicators} {side : Side} {signal : Signal.Score}
      {exposure size : Decimal} (seen : Signal.lastTwo? candles = some (last, previous))
      (indicated : Signal.Indicators.ofCandles? candles = some i)
      (signalled : b.bestSignal? previous last i = some (some (side, signal)))
      (exposed : exposure? s.desk b.settings.user = some exposure)
      (sized : Sizing.size? b.sizing ((s.touch b.settings.user now).balance b.settings.user)
        signal.score s.history exposure = some size) :
      Proposes b s symbol candles now ⟨b.settings.user, symbol, side, size, last.close⟩

theorem Proposes.key {symbol : String} {candles : List Candle} {now : Instant} {entry : Entry}
    (proposed : b.Proposes s symbol candles now entry) :
    entry.user = b.settings.user ∧ entry.symbol = symbol := by
  cases proposed with
  | best => exact ⟨rfl, rfl⟩

/-- The ways in which a look for an entry ends: there is no signal or no size, or the entry that it
proposes is sent. -/
inductive TryStep (b : Bot σ) (s : Session σ) (now : Instant) (symbol : String)
    (candles : List Candle) : Session σ → Prop
  | unsignalled : TryStep b s now symbol candles (s.count Tally.countEvaluated)
  | unsized : TryStep b s now symbol candles
      (((s.count Tally.countEvaluated).count Tally.countAllowed).touch b.settings.user now)
  | sized {entry : Entry} {s' : Session σ} (proposed : b.Proposes s symbol candles now entry)
      (sent : b.sendEntry? (((s.count Tally.countEvaluated).count Tally.countAllowed).touch
        b.settings.user now) now entry = some s') :
      TryStep b s now symbol candles s'

theorem tryEntry?_step {now : Instant} {symbol : String} {candles : List Candle}
    {last previous : Candle} (seen : Signal.lastTwo? candles = some (last, previous))
    (h : b.tryEntry? s now symbol candles previous last = some s') :
    b.TryStep s now symbol candles s' := by
  obtain ⟨i, indicated, h⟩ := Option.bind_eq_some_iff.1 h
  obtain ⟨signal, signalled, h⟩ := Option.bind_eq_some_iff.1 h
  cases signal with
  | none =>
    cases h
    exact .unsignalled
  | some signal =>
    obtain ⟨exposure, exposed, h⟩ := Option.bind_eq_some_iff.1 h
    obtain ⟨size, sized, h⟩ := Option.bind_eq_some_iff.1 h
    split at h
    · cases h
      exact .unsized
    · exact .sized (.best seen indicated signalled exposed sized) h

theorem sendEntry?_look {now : Instant} {entry : Entry} (ofUser : entry.user = b.settings.user)
    (h : b.sendEntry? s now entry = some s') : EntryLook b s entry.symbol s' := by
  cases sendEntry?_step h with
  | denied => exact .quiet rfl (.of_fed rfl rfl (.rolled .start now))
  | failed allowed entered =>
    exact .sent ofUser rfl entered rfl (.of_fed rfl rfl (.rolled .start now))
  | entered allowed entered counted =>
    exact .sent ofUser rfl entered rfl (.of_fed rfl rfl (.entered (.rolled .start now) counted))

theorem tryEntry?_look {now : Instant} {symbol : String} {candles : List Candle}
    {last previous : Candle} (seen : Signal.lastTwo? candles = some (last, previous))
    (h : b.tryEntry? s now symbol candles previous last = some s') :
    EntryLook b s symbol s' := by
  cases tryEntry?_step seen h with
  | unsignalled => exact .quiet rfl (.of_fed rfl rfl .start)
  | unsized => exact .quiet rfl (.of_fed rfl rfl (.rolled .start now))
  | sized proposed sent =>
    obtain ⟨ofUser, rfl⟩ := proposed.key
    exact (sendEntry?_look ofUser sent).after rfl (.of_fed rfl rfl (.rolled .start now))

theorem EntryLook.passed {symbol : String} (h : EntryLook b s symbol s')
    (writable : s.desk.Writable) (priced : s.desk.Priced) : b.Passed s [] [] s' := by
  cases h with
  | quiet desk recorded =>
    rw [← desk] at writable priced
    exact ⟨writable, priced, desk ▸ .same _, recorded⟩
  | sent ofUser inSymbol entered desk recorded =>
    obtain ⟨priced', grown⟩ := Engine.enter?_grown writable priced b.engine.settings
      b.settings.user entered
    have writable' := Engine.enter?_writable writable entered
    rw [← desk] at writable' priced' grown
    exact ⟨writable', priced', grown, recorded⟩

end TradingDesk.Bot
