import TradingDesk.Proofs.Execution.Service

/-!
# The Life of a Position

A position lives from the entry that opens it to the exit that closes it.  In that time its side,
its prices and its quantity stay what they are, its remaining fraction only shrinks, and the flag of
a level that fired stays set.  One exit carries a position on in this sense, so every call does; an
entry is turned away while the position is there.

A restore takes the position from the ledger, which mirrors the book as long as its writes succeed.
So the same holds over restores and restarts, provided that the ledger has no outages and that the
fresh engine has as many levels.  It holds over outages as long as nothing is read back.  Where both
come together it can fail: an exit changes the position before it is written, so a restore after a
lost write takes the exit back.
-/

namespace TradingDesk.Execution

variable {σ : Type}

/-- Whether one position carries on as another. -/
structure Continues (p q : Position) : Prop where
  same : q = { p with remaining := q.remaining, ladderHits := q.ladderHits }
  shrunk : q.remaining ≤ p.remaining
  flagged : ∀ i : Nat, p.ladderHits[i]? = some true → q.ladderHits[i]? = some true

namespace Continues

variable {p q r : Position}

theorem refl (p : Position) : Continues p p :=
  ⟨rfl, Decimal.le_iff.2 le_rfl, fun _ ↦ id⟩

theorem trans (h : Continues p q) (h' : Continues q r) : Continues p r := by
  refine ⟨?_, ?_, fun i set ↦ h'.flagged i (h.flagged i set)⟩
  · rw [h'.same, h.same]
  · rw [Decimal.le_iff] at *
    exact (Decimal.le_iff.1 h'.shrunk).trans (Decimal.le_iff.1 h.shrunk)

/-- With as many flags as before, a flag that is clear was clear. -/
theorem clear {i : Nat} (h : Continues p q) (length : q.ladderHits.length = p.ladderHits.length)
    (clear : q.ladderHits[i]? = some false) : p.ladderHits[i]? = some false := by
  have within : i < p.ladderHits.length := by
    rw [← length]
    exact (List.getElem?_eq_some_iff.1 clear).1
  cases flag : p.ladderHits[i] with
  | false => rw [List.getElem?_eq_getElem within, flag]
  | true =>
    have set : p.ladderHits[i]? = some true := by
      rw [List.getElem?_eq_getElem within, flag]
    rw [h.flagged i set] at clear
    cases clear

end Continues

variable {e : Engine σ} {d d' : Desk σ} {p q after : Position} {levels : Nat}
  {user symbol : String}

namespace Engine

/-! ## Calls -/

theorem afterExit?_continues {x : Exit} {fill : Order.Confirmed} (share : HasShare p)
    (reduced : afterExit? p x fill = some after) : Continues p after := by
  obtain ⟨filled, divided, -⟩ := Option.bind_eq_some_iff.1 reduced
  obtain ⟨-, -, remaining⟩ := afterExit?_share share divided reduced
  refine ⟨afterExit?_eq reduced, ?_, ?_⟩
  · have taken : 0 ≤ (p.removable filled).value := by
      rw [value_removable]
      exact le_max_right _ _
    rw [Decimal.le_iff, remaining]
    linarith
  · intro i set
    rw [afterExit?_ladderHits reduced]
    split
    · exact set
    · rw [List.getElem?_set]
      split
      · rename_i same
        subst same
        rw [if_pos (List.getElem?_eq_some_iff.1 set).1]
      · exact set

/-- What is held after an exit was held before it, and carries on. -/
theorem exit?_continues {x : Exit} {o : Outcome σ ExitReport} (s : d.IsSound levels)
    (h : e.exit? d x = some o) (held : o.desk.book.find? user symbol = some q) :
    ∃ p, d.book.find? user symbol = some p ∧ Continues p q := by
  cases exit?_step h with
  | invalid => exact ⟨q, held, .refl q⟩
  | absent => exact ⟨q, held, .refl q⟩
  | unfilled inside found ordered answered =>
    obtain ⟨market, rfl⟩ := Desk.fill?_desk answered
    exact ⟨q, held, .refl q⟩
  | @filled p after order _ fill report inside found ordered answered reduced reported =>
    obtain ⟨market, rfl⟩ := Desk.fill?_desk answered
    obtain ⟨ledger, desk⟩ := settled_desk (d.afterOrder order market) p after x fill report
    have book : (bookAfter d.book after).find? user symbol = some q := by
      rw [desk] at held
      exact held
    obtain ⟨ofUser, inSymbol, -⟩ := afterExit?_key reduced
    obtain ⟨ofUser', inSymbol'⟩ := Book.of_find?_eq_some found
    by_cases own : after.user = user ∧ after.symbol = symbol
    · obtain ⟨rfl, rfl⟩ := own
      rw [find?_bookAfter] at book
      obtain ⟨rfl, -⟩ := kept?_eq_some book
      refine ⟨p, ?_, afterExit?_continues (s.held found).hasShare reduced⟩
      rw [ofUser, inSymbol, ofUser', inSymbol']
      exact found
    · rw [find?_bookAfter_of_ne own] at book
      exact ⟨q, book, .refl q⟩

theorem Attempts.continues {user' symbol' : String} {tried : List (Outcome σ ExitReport)}
    (h : Attempts e user' symbol' d tried d') (s : d.IsSound levels)
    (held : d'.book.find? user symbol = some q) :
    ∃ p, d.book.find? user symbol = some p ∧ Continues p q := by
  induction h with
  | none => exact ⟨q, held, .refl q⟩
  | next ofUser inSymbol tried more ih =>
    obtain ⟨r, held', later⟩ := ih (exit?_isSound s tried) held
    obtain ⟨p, held'', first⟩ := exit?_continues s tried held'
    exact ⟨p, held'', first.trans later⟩

/-- An entry leaves the positions that are held. -/
theorem enter?_held {entry : Entry} {o : Outcome σ Position}
    (held : d.book.find? user symbol = some p) (h : e.enter? d entry = some o) :
    o.desk.book.find? user symbol = some p := by
  cases enter?_step h with
  | barred => exact held
  | unfilled screened ordered answered =>
    obtain ⟨market, rfl⟩ := Desk.fill?_desk answered
    exact held
  | slipped screened ordered answered measured above unwound =>
    obtain ⟨market, rfl⟩ := Desk.fill?_desk answered
    obtain ⟨market', rfl⟩ := unwind?_desk unwound
    exact held
  | @filled order _ fill _ r fee screened ordered answered measured within formed charged =>
    obtain ⟨market, rfl⟩ := Desk.fill?_desk answered
    have absent := absent_of_not_bars (screen_eq_ok_iff.1 screened)
    obtain ⟨ofUser, inSymbol, -⟩ := position?_key formed
    have other : ¬(r.user = user ∧ r.symbol = symbol) := by
      rintro ⟨rfl, rfl⟩
      rw [ofUser, inSymbol, absent] at held
      cases held
    rw [opened, Desk.bookTrade_desk]
    exact (Book.find?_insert_of_ne other).trans held

/-- A position that is there before and after a call carries on. -/
theorem perform?_continues {call : Call} (s : d.IsSound levels)
    (h : e.perform? d call = some d') (held : d.book.find? user symbol = some p)
    (held' : d'.book.find? user symbol = some q) : Continues p q := by
  obtain ⟨entry, o, -, entered, rfl⟩ | ⟨user', symbol', tried, -, attempts⟩ := perform?_cases h
  · have kept := enter?_held held entered
    rw [held'] at kept
    cases kept
    exact .refl p
  · obtain ⟨r, before, carried⟩ := attempts.continues s held'
    rw [held] at before
    cases before
    exact carried

/-! ## Restores -/

/-- A restore from a ledger that mirrors the book changes nothing. -/
theorem restored_of_mirrors (m : d.Mirrors levels)
    (same : e.settings.ladder.levels.length = levels) : e.restored d = d := by
  have resized : d.book.map (·.resizeHits levels) = d.book :=
    (List.map_congr_left fun p mem ↦ resizeHits_of_length (m.regular p mem).flagged).trans
      d.book.map_id'
  have filed : d.book.foldl Book.insert d.book = d.book :=
    Book.foldl_insert_of_subset m.distinct fun _ mem ↦ mem
  unfold restored restore
  rw [openPositions_of_mirrors m, same]
  change ({ d with book := (d.book.map (·.resizeHits levels)).foldl Book.insert d.book } :
    Desk σ) = d
  rw [resized, filed]

/-- A restart over a ledger that mirrors the book finds the book as it was. -/
theorem restored_of_restarted (m : d.Mirrors levels)
    (same : e.settings.ladder.levels.length = levels) (killSwitch : KillSwitch) :
    e.restored (d.restarted killSwitch) = { d.restarted killSwitch with book := d.book } := by
  unfold restored
  rw [restore_of_mirrors m same]

end Engine

namespace Service

variable {s s' : Service σ}

/-- Whether an event leaves the ledger online and the number of levels as it is. -/
def Event.IsSteady (levels : Nat) : Event σ → Prop
  | .restart fresh _ => fresh.settings.ladder.levels.length = levels
  | .outage _ => False
  | .call _ | .restore | .meanwhile _ _ => True

/-- Whether an event takes positions from the ledger. -/
def Event.Reads : Event σ → Prop
  | .restore | .restart _ _ => True
  | .call _ | .meanwhile _ _ | .outage _ => False

/-- Whether the ledger of a service mirrors the book, for a ladder of some length. -/
structure Mirrors (levels : Nat) (s : Service σ) : Prop where
  fitting : s.engine.settings.ladder.levels.length = levels
  desk : s.desk.Mirrors levels

theorem mirrors_new (engine : Engine σ) (market : σ) (killSwitch : KillSwitch) (clock : Instant) :
    (new engine market killSwitch clock).Mirrors engine.settings.ladder.levels.length :=
  ⟨rfl, Desk.mirrors_new _ market killSwitch clock⟩

theorem step?_mirrors {event : Event σ} (m : s.Mirrors levels) (steady : event.IsSteady levels)
    (h : s.step? event = some s') : s'.Mirrors levels := by
  obtain ⟨rfl, desk⟩ := m
  cases event with
  | call call =>
    obtain ⟨d, performed, rfl⟩ := Option.map_eq_some_iff.1 h
    refine ⟨rfl, ?_⟩
    exact Engine.perform?_preserves Engine.enter?_mirrors Engine.exit?_mirrors desk performed
  | restore =>
    cases h
    rw [Engine.restored_of_mirrors desk rfl]
    exact ⟨rfl, desk⟩
  | restart fresh killSwitch =>
    cases h
    rw [Engine.restored_of_restarted desk steady]
    exact ⟨steady, ⟨desk.writable.online, desk.writable.named⟩, desk.rows, desk.distinct,
      desk.regular⟩
  | meanwhile market killSwitch =>
    cases h
    exact ⟨rfl, ⟨desk.writable.online, desk.writable.named⟩, desk.rows, desk.distinct,
      desk.regular⟩
  | outage calls => cases steady

theorem run?_mirrors {events : List (Event σ)} (m : s.Mirrors levels)
    (steady : ∀ event ∈ events, event.IsSteady levels) (ran : s.run? events = some s') :
    s'.Mirrors levels :=
  run?_induction (fun mem m ↦ step?_mirrors m (steady _ mem)) m ran

/-! ## Lives -/

/-- Whether a user has a position in a symbol before each of some events. -/
def Holds (user symbol : String) : Service σ → List (Event σ) → Prop
  | _, [] => True
  | s, event :: later =>
    (s.desk.book.find? user symbol).isSome ∧ ∀ s' ∈ s.step? event, Holds user symbol s' later

instance Holds.decidable (user symbol : String) (s : Service σ) :
    (events : List (Event σ)) → Decidable (Holds user symbol s events)
  | [] => inferInstanceAs (Decidable True)
  | event :: later =>
    have (s' : Service σ) : Decidable (Holds user symbol s' later) := decidable user symbol s' later
    inferInstanceAs (Decidable ((s.desk.book.find? user symbol).isSome ∧
      ∀ s' ∈ s.step? event, Holds user symbol s' later))

/-- A position that is gone lives no longer. -/
theorem Holds.eq_nil_of_absent {later : List (Event σ)} (life : s.Holds user symbol later)
    (absent : s.desk.book.find? user symbol = none) : later = [] := by
  cases later with
  | nil => rfl
  | cons event later =>
    have found := life.1
    rw [absent] at found
    cases found

/-- Whether the ledger gives back in later events what it was given: it mirrors the book and no event
disturbs it, or it is not read at all. -/
def IsReliable (levels : Nat) (s : Service σ) (later : List (Event σ)) : Prop :=
  (s.Mirrors levels ∧ ∀ event ∈ later, event.IsSteady levels) ∨ ∀ event ∈ later, ¬event.Reads

theorem IsReliable.next {event : Event σ} {later : List (Event σ)}
    (reliable : s.IsReliable levels (event :: later)) (h : s.step? event = some s') :
    s'.IsReliable levels later := by
  rcases reliable with ⟨m, steady⟩ | unread
  · apply Or.inl
    refine ⟨step?_mirrors m (steady event List.mem_cons_self) h, ?_⟩
    exact fun other mem ↦ steady other (List.mem_cons_of_mem event mem)
  · exact Or.inr fun other mem ↦ unread other (List.mem_cons_of_mem event mem)

theorem IsReliable.mirrors {event : Event σ} {later : List (Event σ)}
    (reliable : s.IsReliable levels (event :: later)) (reads : event.Reads) :
    s.Mirrors levels ∧ event.IsSteady levels := by
  rcases reliable with ⟨m, steady⟩ | unread
  · exact ⟨m, steady event List.mem_cons_self⟩
  · exact absurd reads (unread event List.mem_cons_self)

/-- A position that is there before and after an event carries on. -/
theorem step?_continues {event : Event σ} {later : List (Event σ)} (sound : s.IsSound)
    (reliable : s.IsReliable levels (event :: later)) (h : s.step? event = some s')
    (held : s.desk.book.find? user symbol = some p)
    (held' : s'.desk.book.find? user symbol = some q) : Continues p q := by
  have unchanged (book : s'.desk.book = s.desk.book) : Continues p q := by
    rw [book, held] at held'
    cases held'
    exact .refl p
  cases event with
  | call call =>
    obtain ⟨d, performed, rfl⟩ := Option.map_eq_some_iff.1 h
    exact Engine.perform?_continues sound performed held held'
  | restore =>
    obtain ⟨⟨rfl, desk⟩, -⟩ := reliable.mirrors trivial
    cases h
    apply unchanged
    rw [Engine.restored_of_mirrors desk rfl]
  | restart fresh killSwitch =>
    obtain ⟨⟨rfl, desk⟩, steady⟩ := reliable.mirrors trivial
    cases h
    apply unchanged
    rw [Engine.restored_of_restarted desk steady]
  | meanwhile market killSwitch =>
    cases h
    exact unchanged rfl
  | outage calls =>
    cases h
    exact unchanged rfl

/-- What is held at the end of a life carries on what was held at its start. -/
theorem Holds.continues {later : List (Event σ)} (life : s.Holds user symbol later)
    (ran : s.run? later = some s') (sound : s.IsSound) (reliable : s.IsReliable levels later)
    (held : s.desk.book.find? user symbol = some p)
    (held' : s'.desk.book.find? user symbol = some q) : Continues p q := by
  induction later generalizing s p with
  | nil =>
    cases ran
    rw [held] at held'
    cases held'
    exact .refl _
  | cons event later ih =>
    obtain ⟨middle, happened, ran⟩ := Option.bind_eq_some_iff.1 ran
    have more := life.2 middle happened
    cases between : middle.desk.book.find? user symbol with
    | none =>
      obtain rfl := more.eq_nil_of_absent between
      cases ran
      rw [between] at held'
      cases held'
    | some r =>
      have first := step?_continues sound reliable happened held between
      apply first.trans
      exact ih more ran (step?_isSound sound happened) (reliable.next happened) between

/-- A ledger that mirrored an empty book is reliable unless an event disturbs it. -/
theorem isReliable_of_undisturbed {engine : Engine σ} {market : σ} {killSwitch : KillSwitch}
    {clock : Instant} {events later : List (Event σ)}
    (ran : (new engine market killSwitch clock).run? events = some s)
    (undisturbed : (∀ event ∈ events ++ later,
        event.IsSteady engine.settings.ladder.levels.length) ∨ ∀ event ∈ later, ¬event.Reads) :
    s.IsReliable engine.settings.ladder.levels.length later := by
  rcases undisturbed with steady | unread
  · apply Or.inl
    rw [List.forall_mem_append] at steady
    exact ⟨run?_mirrors (mirrors_new engine market killSwitch clock) steady.1 ran, steady.2⟩
  · exact Or.inr unread

/-- At every time, the positions of a book are found in their places, sound, and have a flag for each
level of the engine; and over the life of a position only its remaining fraction shrinks and flags
are set. -/
theorem positions_stay_sound {engine : Engine σ} {market : σ} {killSwitch : KillSwitch}
    {clock : Instant} {events : List (Event σ)}
    (ran : (new engine market killSwitch clock).run? events = some s) :
    (∀ p ∈ s.desk.book, s.desk.book.find? p.user p.symbol = some p ∧ Execution.IsSound p ∧
        p.ladderHits.length = s.engine.settings.ladder.levels.length) ∧
      ∀ user symbol later s' p q, s.run? later = some s' → s.Holds user symbol later →
        ((∀ event ∈ events ++ later, event.IsSteady engine.settings.ladder.levels.length) ∨
          ∀ event ∈ later, ¬event.Reads) →
        s.desk.book.find? user symbol = some p → s'.desk.book.find? user symbol = some q →
        Continues p q := by
  have sound := run?_isSound (isSound_new engine market killSwitch clock) ran
  constructor
  · intro p mem
    exact ⟨sound.distinct.find?_of_mem mem, sound.sound p mem, sound.flagged p mem⟩
  · intro user symbol later s' p q ran' life undisturbed held held'
    have reliable := isReliable_of_undisturbed ran undisturbed
    exact life.continues ran' sound reliable held held'

end Service

/-! ## A climb that is interrupted by a restart -/

/-- The answer of a broker that fills all of an order at a price. -/
def filledAt (price : Nat) : Except String Order.Response :=
  .ok
    { Order.Response.empty with
      status := some "filled"
      orderId := some "steady"
      averageFilledPrice := some (Decimal.const price 0) }

/-- An engine whose broker fills an order at 100, three at 103, one at 101 and one at 104. -/
def climbing : Service Broker.Script.State :=
  Service.new rehearsal
    [filledAt 100, filledAt 103, filledAt 103, filledAt 103, filledAt 101, filledAt 104]
    (KillSwitch.new none) Instant.epoch

/-- An entry of 100 at a price of 100. -/
def bought : Service.Event Broker.Script.State :=
  .call (.enter ⟨"alice", "BTC-USD", .buy, Decimal.const 100 0, Decimal.const 100 0⟩)

/-- The ladder at a price of 103, a restart, and an exit of a fifth. -/
def climb : List (Service.Event Broker.Script.State) :=
  [.call (.takeSteps "alice" "BTC-USD" (Decimal.const 103 0)),
    .restart rehearsal (KillSwitch.new none),
    .call (.exit "alice" "BTC-USD" (Decimal.const 2 1) "manual")]

theorem positions_stay_sound_climb : ∃ s s' p q,
    climbing.run? [bought] = some s ∧ s.run? climb = some s' ∧
      s.desk.book.find? "alice" "BTC-USD" = some p ∧
      s'.desk.book.find? "alice" "BTC-USD" = some q ∧
      p.ladderHits = [false, false, false, false] ∧ q.ladderHits = [true, true, true, false] ∧
      IsSound p ∧ Continues p q := by
  have evaluated : (climbing.run? [bought]).any (fun s ↦
      decide (s.Holds "alice" "BTC-USD" climb) &&
        (s.desk.book.find? "alice" "BTC-USD").any (fun p ↦
          decide (p.ladderHits = [false, false, false, false])) &&
        (s.run? climb).any fun s' ↦ (s'.desk.book.find? "alice" "BTC-USD").any fun q ↦
          decide (q.ladderHits = [true, true, true, false])) = true := by
    decide +kernel
  obtain ⟨s, ran, evaluated⟩ := (Option.any_eq_true _ _).1 evaluated
  rw [Bool.and_eq_true, Bool.and_eq_true, decide_eq_true_iff] at evaluated
  obtain ⟨⟨life, before⟩, after⟩ := evaluated
  obtain ⟨p, held, clear⟩ := (Option.any_eq_true _ _).1 before
  obtain ⟨s', ran', after⟩ := (Option.any_eq_true _ _).1 after
  obtain ⟨q, held', set⟩ := (Option.any_eq_true _ _).1 after
  obtain ⟨sound, lives⟩ := Service.positions_stay_sound ran
  have steady : ∀ event ∈ [bought] ++ climb, event.IsSteady 4 := by
    simp [bought, climb, Service.Event.IsSteady, rehearsal, Settings.standard, Ladder.standard]
  refine ⟨s, s', p, q, ran, ran', held, held', of_decide_eq_true clear, of_decide_eq_true set,
    ?_, ?_⟩
  · exact (sound p (List.mem_of_find?_eq_some held)).2.1
  · exact lives "alice" "BTC-USD" climb s' p q ran' life (.inl steady) held held'

/-! ## An exit that the ledger misses -/

/-- An engine whose broker fills an order at 100 and two at 102. -/
def lapsing : Service Broker.Script.State :=
  Service.new rehearsal [filledAt 100, filledAt 102, filledAt 102] (KillSwitch.new none)
    Instant.epoch

/-- The ladder at a price of 102 while the ledger cannot note the progress of a position. -/
def lapse : List (Service.Event Broker.Script.State) :=
  [.outage [.updateRemaining], .call (.takeSteps "alice" "BTC-USD" (Decimal.const 102 0))]

/-- A restore after a lost write takes an exit back: more of the position is open than before, and
the flag of the level that fired is clear again. -/
theorem restore_can_undo_exit : ∃ s s' p q,
    lapsing.run? (bought :: lapse) = some s ∧ s.step? .restore = some s' ∧
      s.desk.book.find? "alice" "BTC-USD" = some p ∧
      s'.desk.book.find? "alice" "BTC-USD" = some q ∧
      p.remaining < q.remaining ∧ p.ladderHits = [true, false, false, false] ∧
      q.ladderHits = [false, false, false, false] ∧ ¬Continues p q := by
  have evaluated : (lapsing.run? (bought :: lapse)).any (fun s ↦
      (s.step? .restore).any fun s' ↦
        (s.desk.book.find? "alice" "BTC-USD").any fun p ↦
          (s'.desk.book.find? "alice" "BTC-USD").any fun q ↦
            decide (p.remaining < q.remaining ∧ p.ladderHits = [true, false, false, false] ∧
              q.ladderHits = [false, false, false, false])) = true := by
    decide +kernel
  obtain ⟨s, ran, evaluated⟩ := (Option.any_eq_true _ _).1 evaluated
  obtain ⟨s', restored, evaluated⟩ := (Option.any_eq_true _ _).1 evaluated
  obtain ⟨p, held, evaluated⟩ := (Option.any_eq_true _ _).1 evaluated
  obtain ⟨q, held', evaluated⟩ := (Option.any_eq_true _ _).1 evaluated
  obtain ⟨grown, set, clear⟩ := of_decide_eq_true evaluated
  refine ⟨s, s', p, q, ran, restored, held, held', grown, set, clear, ?_⟩
  intro carried
  exact Decimal.not_le.2 grown carried.shrunk

end TradingDesk.Execution
