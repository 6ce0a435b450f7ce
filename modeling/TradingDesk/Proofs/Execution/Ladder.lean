import TradingDesk.Proofs.Decimal.Portion
import TradingDesk.Proofs.Execution.Life

/-!
# The Ladder Alone

A level sells a share of what is still open, and never more than all but one hundredth of the
quantity at entry.  Whatever the broker fills of it, at least one hundredth stays open, and a
position is closed only below that.  So no level closes a position, and no row of levels does: this
is one statement about a single exit that is asked for by a level, and an induction over the levels.

Levels with a share below zero, or with one that rounds to nothing, ask for no exit.  What asks for
none asks for none later, when less is open.
-/

namespace TradingDesk.Execution

variable {σ : Type} {e : Engine σ} {d d' : Desk σ} {p q after : Position} {levels : Nat}
  {user symbol : String}

/-! ## Tranches -/

/-- The tranche of a level is its share of what is open, cut to what leaves the position open. -/
theorem tranche?_eq_some {level : ProfitLevel} {tranche : Decimal} (sound : IsSound p)
    (h : level.tranche? p.remaining = some tranche) :
    ∃ share, Decimal.mul? level.exitFraction p.remaining = some share ∧
      tranche.value = max (min share.value (p.remaining.value - 1 / 100)) 0 := by
  obtain ⟨share, multiplied, h⟩ := Option.bind_eq_some_iff.1 h
  obtain ⟨room, subtracted, h⟩ := Option.bind_eq_some_iff.1 h
  cases h
  have opened := Decimal.le_iff.1 sound.opened
  rw [value_closedThreshold] at opened
  have small : |p.remaining.value - Position.closedThreshold.value| ≤ 1 := by
    rw [value_closedThreshold, abs_of_nonneg (by linarith)]
    linarith [sound.hasShare.2]
  refine ⟨share, multiplied, ?_⟩
  rw [Decimal.value_max, Decimal.value_min, Decimal.value_sub? small subtracted, Decimal.value_zero,
    value_closedThreshold]

/-- A tranche leaves one hundredth. -/
theorem tranche?_le {level : ProfitLevel} {tranche : Decimal} (sound : IsSound p)
    (h : level.tranche? p.remaining = some tranche) :
    tranche.value ≤ p.remaining.value - 1 / 100 := by
  obtain ⟨share, -, value⟩ := tranche?_eq_some sound h
  have opened := Decimal.le_iff.1 sound.opened
  rw [value_closedThreshold] at opened
  rw [value]
  apply max_le
  · exact min_le_right _ _
  · linarith

/-- A level without a tranche has none when less is open. -/
theorem tranche?_exhausted {level : ProfitLevel} {tranche : Decimal} (sound : IsSound p)
    (sound' : IsSound q) (shrunk : q.remaining ≤ p.remaining)
    (h : level.tranche? p.remaining = some tranche) (none : tranche ≤ Decimal.zero) :
    ∃ tranche', level.tranche? q.remaining = some tranche' ∧ tranche' ≤ Decimal.zero := by
  obtain ⟨share, multiplied, value⟩ := tranche?_eq_some sound h
  obtain ⟨least, most⟩ := sound'.hasShare
  have less := Decimal.le_iff.1 shrunk
  obtain ⟨share', multiplied'⟩ := Decimal.mul?_defined level.exitFraction least most
  have opened := Decimal.le_iff.1 sound'.opened
  have small : |q.remaining.value - Position.closedThreshold.value| ≤ 1 := by
    rw [abs_of_nonneg (by linarith), value_closedThreshold]
    linarith
  obtain ⟨room', subtracted'⟩ := Decimal.sub?_defined small
  have defined : level.tranche? q.remaining = some ((share'.min room').max Decimal.zero) := by
    simp [ProfitLevel.tranche?, multiplied', subtracted']
  obtain ⟨_, same, value'⟩ := tranche?_eq_some sound' defined
  obtain rfl := Option.some.inj (multiplied'.symm.trans same)
  refine ⟨_, defined, ?_⟩
  rw [Decimal.le_iff, Decimal.value_zero] at none ⊢
  rw [value] at none
  rw [value']
  apply max_le _ le_rfl
  rcases min_le_iff.1 ((le_max_left _ _).trans none) with without | full
  · apply min_le_of_left_le
    rcases le_total level.exitFraction.value 0 with below | above
    · exact Decimal.mul?_nonpos below least multiplied'
    · have vanished : share.value = 0 :=
        le_antisymm without (Decimal.mul?_nonneg above sound.hasShare.1 multiplied)
      exact (Decimal.mul?_vanishes above least less multiplied vanished multiplied').le
  · apply min_le_of_right_le
    linarith

namespace Engine

/-! ## Exits that a level asks for -/

/-- What a level asks of a position: the exit of its tranche, or nothing. -/
def asked? (p : Position) (hit : LadderHit) : Option (Option Exit) := do
  let fraction ← hit.level.tranche? p.remaining
  if fraction ≤ Decimal.zero then some none
  else
    let reason ← hit.level.reason?
    some (some ⟨p.user, p.symbol, fraction, reason, some hit.index⟩)

theorem asked?_eq_none_iff {hit : LadderHit} : asked? p hit = some none ↔
    ∃ tranche, hit.level.tranche? p.remaining = some tranche ∧ tranche ≤ Decimal.zero := by
  constructor
  · intro h
    obtain ⟨tranche, cut, h⟩ := Option.bind_eq_some_iff.1 h
    split at h
    · rename_i none
      exact ⟨tranche, cut, none⟩
    · obtain ⟨reason, -, h⟩ := Option.bind_eq_some_iff.1 h
      cases h
  · rintro ⟨tranche, cut, none⟩
    simp [asked?, cut, none]

theorem asked?_eq_some {hit : LadderHit} {x : Exit} (h : asked? p hit = some (some x)) :
    x.user = p.user ∧ x.symbol = p.symbol ∧ x.level = some hit.index ∧
      hit.level.tranche? p.remaining = some x.fraction := by
  obtain ⟨tranche, cut, h⟩ := Option.bind_eq_some_iff.1 h
  split at h
  · cases h
  · obtain ⟨reason, -, h⟩ := Option.bind_eq_some_iff.1 h
    cases h
    exact ⟨rfl, rfl, rfl, cut⟩

/-- A level that asks for nothing asks for nothing when less is open. -/
theorem asked?_exhausted {hit : LadderHit} (sound : IsSound p) (sound' : IsSound q)
    (shrunk : q.remaining ≤ p.remaining) (h : asked? p hit = some none) :
    asked? q hit = some none := by
  obtain ⟨tranche, cut, none⟩ := asked?_eq_none_iff.1 h
  exact asked?_eq_none_iff.2 (tranche?_exhausted sound sound' shrunk cut none)

theorem filledFraction?_le {fraction filled : Decimal} {fill : Order.Confirmed}
    (h : filledFraction? p fraction fill = some filled) : filled.value ≤ fraction.value := by
  unfold filledFraction? at h
  split at h
  · obtain ⟨part, -, h⟩ := Option.bind_eq_some_iff.1 h
    cases h
    rw [Decimal.value_min]
    exact min_le_right _ _
  · cases h
    exact le_rfl

/-- Whether an exit was filled.  One that was filled may still fail to be booked. -/
def wasFilled (o : Outcome σ ExitReport) : Bool :=
  match o.result with
  | .ok _ | .error (.ledger _) => true
  | .error _ => false

/-- An exit of no more than all but one hundredth leaves the position open.  Once it is filled, the
flag of its level is set. -/
theorem exit?_keeps {x : Exit} {o : Outcome σ ExitReport} (s : d.IsSound levels)
    (held : d.book.find? x.user x.symbol = some p)
    (room : x.fraction.value ≤ p.remaining.value - 1 / 100) (h : e.exit? d x = some o) :
    (∃ q, o.desk.book.find? x.user x.symbol = some q ∧
        ∀ i < levels, wasFilled o = true → x.level = some i → q.ladderHits[i]? = some true) ∧
      ∀ report, o.result = .ok report → report.closed = false := by
  cases exit?_step h with
  | invalid => exact ⟨⟨p, held, by simp [wasFilled, Outcome.failed]⟩, by simp [Outcome.failed]⟩
  | absent => exact ⟨⟨p, held, by simp [wasFilled, Outcome.failed]⟩, by simp [Outcome.failed]⟩
  | unfilled inside found ordered answered =>
    obtain ⟨market, rfl⟩ := Desk.fill?_desk answered
    refine ⟨⟨p, held, ?_⟩, by simp [Outcome.failed]⟩
    rcases Desk.fill?_failed answered with ⟨text, rfl⟩ | ⟨refusal, rfl⟩
    · simp [wasFilled, Outcome.failed]
    · simp [wasFilled, Outcome.failed]
  | @filled _ after order _ fill report inside found ordered answered reduced reported =>
    obtain rfl := Option.some.inj (held.symm.trans found)
    obtain ⟨market, rfl⟩ := Desk.fill?_desk answered
    have share := (s.held held).hasShare
    have opened : after.isClosed = false := by
      obtain ⟨filled, divided, -⟩ := Option.bind_eq_some_iff.1 reduced
      obtain ⟨-, -, remaining⟩ := afterExit?_share share divided reduced
      have positive := Decimal.lt_iff.1 inside.1
      rw [Decimal.value_zero] at positive
      have taken : (p.removable filled).value ≤ x.fraction.value := by
        rw [value_removable]
        apply max_le _ positive.le
        exact (min_le_left _ _).trans (filledFraction?_le divided)
      rw [isClosed_eq_false_iff, Decimal.le_iff, value_closedThreshold, remaining]
      linarith
    obtain ⟨ofUser, inSymbol, -⟩ := afterExit?_key reduced
    obtain ⟨ofUser', inSymbol'⟩ := Book.of_find?_eq_some held
    constructor
    · refine ⟨after, ?_, ?_⟩
      · obtain ⟨ledger, desk⟩ := settled_desk (d.afterOrder order market) p after x fill report
        have kept : (bookAfter d.book after).find? after.user after.symbol = some after := by
          rw [find?_bookAfter, kept?, opened]
          rfl
        rw [desk, ← ofUser', ← inSymbol', ← ofUser, ← inSymbol]
        exact kept
      · intro i within _ level
        have flags := s.flagged p (List.mem_of_find?_eq_some held)
        rw [afterExit?_ladderHits reduced, level]
        exact List.getElem?_set_self (by omega)
    · intro report' ended
      obtain ⟨_, _, _, _, same, _⟩ := Desk.bookTrade_ok ended
      rw [same, report?_closed reported, opened]

/-! ## Levels that fire one after another -/

/-- The ways in which levels fire, by what comes of the first one. -/
inductive FireStep (e : Engine σ) (user symbol : String) (d : Desk σ) (hit : LadderHit)
    (rest : List LadderHit) : Outcome σ (List ExitReport) → Prop
  | unheld (absent : d.book.find? user symbol = none) :
      FireStep e user symbol d hit rest (.failed d (.noPosition user symbol))
  | passed {p : Position} {o : Outcome σ (List ExitReport)}
      (held : d.book.find? user symbol = some p) (asked : asked? p hit = some none)
      (more : e.fire? user symbol d rest = some o) : FireStep e user symbol d hit rest o
  | stopped {p : Position} {x : Exit} {first : Outcome σ ExitReport} {error : Error}
      (held : d.book.find? user symbol = some p) (asked : asked? p hit = some (some x))
      (tried : e.exit? d x = some first) (ended : first.result = .error error) :
      FireStep e user symbol d hit rest (.failed first.desk error)
  | closed {p : Position} {x : Exit} {first : Outcome σ ExitReport} {report : ExitReport}
      (held : d.book.find? user symbol = some p) (asked : asked? p hit = some (some x))
      (tried : e.exit? d x = some first) (ended : first.result = .ok report)
      (shut : report.closed = true) : FireStep e user symbol d hit rest (.done first.desk [report])
  | fired {p : Position} {x : Exit} {first : Outcome σ ExitReport} {report : ExitReport}
      {o : Outcome σ (List ExitReport)} (held : d.book.find? user symbol = some p)
      (asked : asked? p hit = some (some x)) (tried : e.exit? d x = some first)
      (ended : first.result = .ok report) (unshut : report.closed = false)
      (more : e.fire? user symbol first.desk rest = some o) :
      FireStep e user symbol d hit rest (o.map (report :: ·))

theorem fire?_step {hit : LadderHit} {rest : List LadderHit} {o : Outcome σ (List ExitReport)}
    (h : e.fire? user symbol d (hit :: rest) = some o) : FireStep e user symbol d hit rest o := by
  unfold fire? at h
  split at h
  · rename_i absent
    cases h
    exact .unheld absent
  · rename_i p held
    obtain ⟨fraction, cut, h⟩ := Option.bind_eq_some_iff.1 h
    split at h
    · rename_i none
      exact .passed held (asked?_eq_none_iff.2 ⟨fraction, cut, none⟩) h
    · rename_i some
      obtain ⟨reason, named, h⟩ := Option.bind_eq_some_iff.1 h
      obtain ⟨first, tried, h⟩ := Option.bind_eq_some_iff.1 h
      obtain ⟨ofUser, inSymbol⟩ := Book.of_find?_eq_some held
      have asked : asked? p hit =
          Option.some (Option.some ⟨user, symbol, fraction, reason, Option.some hit.index⟩) := by
        simp [asked?, cut, some, named, ofUser, inSymbol]
      unfold Outcome.andThen? at h
      split at h
      · rename_i error ended
        cases h
        exact .stopped held asked tried ended
      · rename_i report ended
        dsimp only at h
        split at h
        · rename_i shut
          cases h
          exact .closed held asked tried ended shut
        · rename_i unshut
          obtain ⟨o', more, rfl⟩ := Option.map_eq_some_iff.1 h
          exact .fired held asked tried ended (Bool.eq_false_iff.2 unshut) more

/-- An exit that a level asks for leaves the position open. -/
theorem asked?_keeps {hit : LadderHit} {x : Exit} {o : Outcome σ ExitReport} (s : d.IsSound levels)
    (held : d.book.find? user symbol = some p) (asked : asked? p hit = some (some x))
    (tried : e.exit? d x = some o) :
    (∃ q, o.desk.book.find? user symbol = some q ∧
        (hit.index < levels → wasFilled o = true → q.ladderHits[hit.index]? = some true)) ∧
      ∀ report, o.result = .ok report → report.closed = false := by
  obtain ⟨ofUser, inSymbol⟩ := Book.of_find?_eq_some held
  obtain ⟨ofUser', inSymbol', level, cut⟩ := asked?_eq_some asked
  rw [← ofUser, ← inSymbol, ← ofUser', ← inSymbol'] at held ⊢
  obtain ⟨⟨q, kept, flag⟩, unshut⟩ := exit?_keeps s held (tranche?_le (s.held held) cut) tried
  exact ⟨⟨q, kept, fun within filled ↦ flag hit.index within filled level⟩, unshut⟩

/-- The ways in which levels fire for a position of a sound desk.  None of the exits closes it, so
each level finds it there. -/
inductive HeldStep (e : Engine σ) (user symbol : String) (levels : Nat) (d : Desk σ) (p : Position)
    (hit : LadderHit) (rest : List LadderHit) : Outcome σ (List ExitReport) → Prop
  | passed {o : Outcome σ (List ExitReport)} (asked : asked? p hit = some none)
      (more : e.fire? user symbol d rest = some o) :
      HeldStep e user symbol levels d p hit rest o
  | stopped {x : Exit} {first : Outcome σ ExitReport} {error : Error} {r : Position}
      (asked : asked? p hit = some (some x)) (tried : e.exit? d x = some first)
      (ended : first.result = .error error) (kept : first.desk.book.find? user symbol = some r)
      (flag : hit.index < levels → wasFilled first = true → r.ladderHits[hit.index]? = some true) :
      HeldStep e user symbol levels d p hit rest (.failed first.desk error)
  | fired {x : Exit} {first : Outcome σ ExitReport} {report : ExitReport} {r : Position}
      {o : Outcome σ (List ExitReport)} (asked : asked? p hit = some (some x))
      (tried : e.exit? d x = some first) (ended : first.result = .ok report)
      (unshut : report.closed = false) (kept : first.desk.book.find? user symbol = some r)
      (flag : hit.index < levels → r.ladderHits[hit.index]? = some true)
      (sound : first.desk.IsSound levels) (more : e.fire? user symbol first.desk rest = some o) :
      HeldStep e user symbol levels d p hit rest (o.map (report :: ·))

theorem fire?_heldStep {hit : LadderHit} {rest : List LadderHit}
    {o : Outcome σ (List ExitReport)} (s : d.IsSound levels)
    (held : d.book.find? user symbol = some p)
    (h : e.fire? user symbol d (hit :: rest) = some o) :
    HeldStep e user symbol levels d p hit rest o := by
  cases fire?_step h with
  | unheld absent =>
    rw [absent] at held
    cases held
  | passed found asked more =>
    obtain rfl := Option.some.inj (held.symm.trans found)
    exact .passed asked more
  | stopped found asked tried ended =>
    obtain rfl := Option.some.inj (held.symm.trans found)
    obtain ⟨⟨r, kept, flag⟩, -⟩ := asked?_keeps s held asked tried
    exact .stopped asked tried ended kept flag
  | closed found asked tried ended shut =>
    obtain ⟨-, unshut⟩ := asked?_keeps s found asked tried
    rw [unshut _ ended] at shut
    cases shut
  | @fired _ x first report _ found asked tried ended unshut more =>
    obtain rfl := Option.some.inj (held.symm.trans found)
    obtain ⟨⟨r, kept, flag⟩, -⟩ := asked?_keeps s held asked tried
    have filled : wasFilled first = true := by
      rw [wasFilled, ended]
    exact .fired asked tried ended unshut kept (fun within ↦ flag within filled)
      (exit?_isSound s tried) more

/-- The reports of levels that fired without a failure begin with that of the first one. -/
theorem map_cons_eq_ok {o : Outcome σ (List ExitReport)} {report : ExitReport}
    {reports : List ExitReport} (h : (o.map (report :: ·)).result = .ok reports) :
    ∃ later, o.result = .ok later ∧ reports = report :: later := by
  cases result : o.result with
  | error error => simp [Outcome.map, result, Except.map] at h
  | ok later =>
    simp only [Outcome.map, result, Except.map, Except.ok.injEq] at h
    exact ⟨later, rfl, h.symm⟩

/-- Levels that fire one after another leave the position open. -/
theorem fire?_keeps {hits : List LadderHit} {o : Outcome σ (List ExitReport)}
    (s : d.IsSound levels) (held : d.book.find? user symbol = some p)
    (h : e.fire? user symbol d hits = some o) :
    (∃ q, o.desk.book.find? user symbol = some q) ∧
      ∀ reports, o.result = .ok reports → ∀ report ∈ reports, report.closed = false := by
  induction hits generalizing d p o with
  | nil =>
    cases h
    refine ⟨⟨p, held⟩, ?_⟩
    intro reports ended
    cases ended
    simp
  | cons hit rest ih =>
    cases fire?_heldStep s held h with
    | passed asked more => exact ih s held more
    | @stopped _ _ _ r asked tried ended kept => exact ⟨⟨r, kept⟩, by simp [Outcome.failed]⟩
    | fired asked tried ended unshut kept flag sound more =>
      obtain ⟨final, unshut'⟩ := ih sound kept more
      refine ⟨final, ?_⟩
      intro reports ended'
      obtain ⟨later, result, rfl⟩ := map_cons_eq_ok ended'
      exact List.forall_mem_cons.2 ⟨unshut, unshut' later result⟩

/-- The position that is left carries on the one before. -/
theorem fire?_continues {hits : List LadderHit} {o : Outcome σ (List ExitReport)}
    (s : d.IsSound levels) (held : d.book.find? user symbol = some p)
    (h : e.fire? user symbol d hits = some o) (held' : o.desk.book.find? user symbol = some q) :
    Continues p q := by
  obtain ⟨tried, attempts, -⟩ := fire?_attempts h
  obtain ⟨p', before, carried⟩ := attempts.continues s held'
  rw [held] at before
  cases before
  exact carried

theorem takeSteps?_eq_some {price : Decimal} {o : Outcome σ (List ExitReport)}
    (held : d.book.find? user symbol = some p)
    (h : e.takeSteps? d user symbol price = some o) :
    ∃ hits, e.settings.ladder.pendingHits? p price = some hits ∧
      e.fire? user symbol d hits = some o := by
  unfold takeSteps? at h
  rw [held] at h
  exact Option.bind_eq_some_iff.1 h

theorem fire?_isSound {hits : List LadderHit} {o : Outcome σ (List ExitReport)}
    (s : d.IsSound levels) (h : e.fire? user symbol d hits = some o) : o.desk.IsSound levels := by
  obtain ⟨tried, attempts, -⟩ := fire?_attempts h
  exact attempts.preserves exit?_isSound s

theorem takeSteps?_isSound {price : Decimal} {o : Outcome σ (List ExitReport)}
    (s : d.IsSound levels) (h : e.takeSteps? d user symbol price = some o) :
    o.desk.IsSound levels := by
  obtain ⟨tried, attempts, -⟩ := takeSteps?_attempts h
  exact attempts.preserves exit?_isSound s

end Engine

namespace Service

/-- At every time and for every ladder, firing the levels that a price reaches closes nothing: no
report is of a closed position, and however the call ends, the position is still there with at least
one hundredth open. -/
theorem ladder_never_closes {engine : Engine σ} {market : σ} {killSwitch : KillSwitch}
    {clock : Instant} {events : List (Event σ)} {s : Service σ} {price : Decimal}
    {o : Outcome σ (List ExitReport)}
    (ran : (new engine market killSwitch clock).run? events = some s)
    (stepped : s.engine.takeSteps? s.desk user symbol price = some o) :
    (∀ reports, o.result = .ok reports → ∀ report ∈ reports, report.closed = false) ∧
      ∀ p, s.desk.book.find? user symbol = some p →
        ∃ q, o.desk.book.find? user symbol = some q ∧ Continues p q ∧
          Position.closedThreshold ≤ q.remaining := by
  have sound : s.IsSound := run?_isSound (isSound_new engine market killSwitch clock) ran
  have sound' := Engine.takeSteps?_isSound sound stepped
  cases held : s.desk.book.find? user symbol with
  | none =>
    rw [Engine.takeSteps?, held] at stepped
    cases stepped
    exact ⟨by simp [Outcome.failed], by simp⟩
  | some p =>
    obtain ⟨hits, -, fired⟩ := Engine.takeSteps?_eq_some held stepped
    obtain ⟨⟨q, kept⟩, unshut⟩ := Engine.fire?_keeps sound held fired
    refine ⟨unshut, ?_⟩
    intro p' same
    cases same
    have carried := Engine.fire?_continues sound held fired kept
    exact ⟨q, kept, carried, (sound'.held kept).opened⟩

end Service

/-! ## A ladder that asks for too much -/

/-- An engine whose ladder sells twice what is open, then all of it, then less than nothing. -/
def greedy : Service Broker.Script.State :=
  let levels : List ProfitLevel :=
    [⟨Decimal.const 20 3, Decimal.const 2 0⟩, ⟨Decimal.const 25 3, Decimal.one⟩,
      ⟨Decimal.const 30 3, Decimal.one.neg⟩]
  Service.new
    ⟨{ Settings.standard with ladder := ⟨levels, Decimal.zero⟩ }, Broker.Script.broker []⟩
    [filledAt 100, filledAt 103, filledAt 103] (KillSwitch.new none) Instant.epoch

theorem ladder_never_closes_greedy : ∃ s o reports q,
    greedy.run? [bought] = some s ∧
      s.engine.takeSteps? s.desk "alice" "BTC-USD" (Decimal.const 103 0) = some o ∧
      o.result = .ok reports ∧ reports.map (·.remaining) = [Position.closedThreshold] ∧
      (∀ report ∈ reports, report.closed = false) ∧
      o.desk.book.find? "alice" "BTC-USD" = some q ∧ Position.closedThreshold ≤ q.remaining := by
  have evaluated : (greedy.run? [bought]).any (fun s ↦
      (s.desk.book.find? "alice" "BTC-USD").isSome &&
        (s.engine.takeSteps? s.desk "alice" "BTC-USD" (Decimal.const 103 0)).any fun o ↦
          o.result.toOption.any fun reports ↦
            decide (reports.map (·.remaining) = [Position.closedThreshold])) = true := by
    decide +kernel
  obtain ⟨s, ran, evaluated⟩ := (Option.any_eq_true _ _).1 evaluated
  obtain ⟨held, evaluated⟩ := Bool.and_eq_true_iff.1 evaluated
  obtain ⟨p, held⟩ := Option.isSome_iff_exists.1 held
  obtain ⟨o, stepped, evaluated⟩ := (Option.any_eq_true _ _).1 evaluated
  obtain ⟨reports, ended, remaining⟩ := (Option.any_eq_true _ _).1 evaluated
  have ended : o.result = .ok reports := by
    cases result : o.result with
    | error error =>
      rw [result] at ended
      cases ended
    | ok reports' =>
      rw [result] at ended
      cases ended
      rfl
  obtain ⟨unshut, stays⟩ := Service.ladder_never_closes ran stepped
  obtain ⟨q, kept, -, opened⟩ := stays p held
  exact ⟨s, o, reports, q, ran, stepped, ended, of_decide_eq_true remaining, unshut reports ended,
    kept, opened⟩

end TradingDesk.Execution
