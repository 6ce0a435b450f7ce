import TradingDesk.Proofs.Execution.Liquidation
import TradingDesk.Proofs.Execution.Mirror

/-!
# Engines in Service

An engine works on its desk for a long time.  Between its calls it takes positions from the ledger
again, it is replaced by a fresh engine over the same broker and ledger, market and kill switch
change without it, and the ledger has outages.

Whatever happens, the book and the open rows of the ledger hold sound positions only: bought or sold
at a positive price, of a quantity that is not negative, and open, with one hundredth to all of that
quantity remaining.  This is said of every position once for each way in which one comes about: an
entry opens a sound position, and an exit that does not close a position leaves it sound.
-/

namespace TradingDesk.Execution

variable {σ : Type}

/-! ## Events -/

/-- An engine and the desk that it works on. -/
structure Service (σ : Type) where
  engine : Engine σ
  desk : Desk σ

/-- What happens to an engine and its desk.  A restart hands broker and ledger to a fresh engine, the
market and the kill switch change meanwhile, and an outage lasts until the next one is declared. -/
inductive Service.Event (σ : Type) where
  | call (call : Call)
  | restore
  | restart (fresh : Engine σ) (killSwitch : KillSwitch)
  | meanwhile (market : σ) (killSwitch : KillSwitch)
  | outage (calls : List Ledger.Call)

/-- The desk after a restore; one that fails leaves it as it was. -/
def Engine.restored (e : Engine σ) (d : Desk σ) : Desk σ :=
  match e.restore d with
  | .error _ => d
  | .ok (d', _) => d'

namespace Service

/-- An engine over a desk without positions, orders and records. -/
def new (engine : Engine σ) (market : σ) (killSwitch : KillSwitch) (clock : Instant) : Service σ :=
  ⟨engine, Desk.new market killSwitch clock⟩

/-- The engine and its desk after an event, however the event ended. -/
def step? (s : Service σ) : Event σ → Option (Service σ)
  | .call call => (s.engine.perform? s.desk call).map fun d ↦ { s with desk := d }
  | .restore => some { s with desk := s.engine.restored s.desk }
  | .restart fresh killSwitch => some ⟨fresh, fresh.restored (s.desk.restarted killSwitch)⟩
  | .meanwhile market killSwitch =>
    some { s with desk := { s.desk with market := market, killSwitch := killSwitch } }
  | .outage calls =>
    some { s with desk := { s.desk with ledger := { s.desk.ledger with outages := calls } } }

/-- The engine and its desk after events one after another. -/
def run? (s : Service σ) (events : List (Event σ)) : Option (Service σ) :=
  events.foldlM step? s

/-- What events preserve holds after every run. -/
theorem run?_induction {P : Service σ → Prop} {events : List (Event σ)} {s s' : Service σ}
    (step : ∀ {s event s'}, event ∈ events → P s → s.step? event = some s' → P s') (start : P s)
    (ran : s.run? events = some s') : P s' := by
  induction events generalizing s with
  | nil =>
    cases ran
    exact start
  | cons event events ih =>
    obtain ⟨middle, happened, ran⟩ := Option.bind_eq_some_iff.1 ran
    apply ih (fun mem ↦ step (List.mem_cons_of_mem event mem)) _ ran
    exact step List.mem_cons_self start happened

end Service

/-! ## Sound positions -/

/-- Whether a position was opened at a positive price for a quantity that is not negative, and is
open still. -/
structure IsSound (p : Position) : Prop where
  priced : Decimal.zero < p.entryPrice
  counted : Decimal.zero ≤ p.quantity
  opened : Position.closedThreshold ≤ p.remaining
  whole : p.remaining ≤ Decimal.one

variable {e : Engine σ} {d d' : Desk σ} {p after : Position} {levels : Nat}

theorem value_closedThreshold : Position.closedThreshold.value = 1 / 100 := by
  rw [Position.closedThreshold, Decimal.value_const (by decide) (by decide)]
  norm_num

theorem isClosed_eq_false_iff : p.isClosed = false ↔ Position.closedThreshold ≤ p.remaining := by
  rw [Position.isClosed, decide_eq_false_iff_not, Decimal.not_lt]

theorem IsSound.hasShare (sound : IsSound p) : HasShare p := by
  have opened := Decimal.le_iff.1 sound.opened
  have whole := Decimal.le_iff.1 sound.whole
  rw [value_closedThreshold] at opened
  rw [Decimal.value_one] at whole
  exact ⟨by linarith, whole⟩

theorem IsSound.nonneg (sound : IsSound p) : 0 ≤ p.quantity.value := by
  simpa using Decimal.le_iff.1 sound.counted

/-- A position with other flags and another remaining fraction that leaves it open. -/
theorem IsSound.of_kept {q : Position} (sound : IsSound p) (price : q.entryPrice = p.entryPrice)
    (quantity : q.quantity = p.quantity) (opened : Position.closedThreshold ≤ q.remaining)
    (whole : q.remaining ≤ Decimal.one) : IsSound q :=
  ⟨price ▸ sound.priced, quantity ▸ sound.counted, opened, whole⟩

namespace Engine

/-- What a confirmed entry opens is sound, whatever quantity the broker names. -/
theorem position?_isSound {entry : Entry} {order : Order.Request} {response : Order.Response}
    {fill : Order.Confirmed} {now : Instant} (passed : ¬e.Bars d entry)
    (ordered : entryOrder? entry = some order)
    (checked : Order.confirm? response order.symbol order.quantity = some (.ok fill))
    (formed : e.position? entry fill now = some p) : IsSound p := by
  obtain ⟨-, priced, filled⟩ := Order.confirm?_eq_ok checked
  have counted : Decimal.zero ≤ fill.quantity := by
    rw [Decimal.le_iff, Decimal.value_zero]
    rcases Order.fillQuantity?_cases filled with positive | asked
    · simpa using (Decimal.lt_iff.1 positive).le
    · rw [asked]
      exact entryOrder?_nonneg passed ordered
  obtain ⟨bounds, -, formed⟩ := Option.bind_eq_some_iff.1 formed
  cases formed
  have opened : Position.closedThreshold ≤ Decimal.one := by decide
  exact ⟨Order.zero_lt_of_fillPrice? priced, counted, opened, Decimal.le_iff.2 le_rfl⟩

/-- A sound position that an exit does not close stays sound. -/
theorem afterExit?_isSound {x : Exit} {fill : Order.Confirmed} (sound : IsSound p)
    (reduced : afterExit? p x fill = some after) (opened : after.isClosed = false) :
    IsSound after := by
  obtain ⟨filled, divided, -⟩ := Option.bind_eq_some_iff.1 reduced
  obtain ⟨share, quantity, -⟩ := afterExit?_share sound.hasShare divided reduced
  apply sound.of_kept (by rw [afterExit?_eq reduced]) quantity (isClosed_eq_false_iff.1 opened)
  rw [Decimal.le_iff, Decimal.value_one]
  exact share.2

end Engine

/-! ## Sound ledgers -/

/-- Whether every open row of a ledger holds a sound position. -/
def HasSoundRows (l : Ledger) : Prop :=
  ∀ row ∈ l.positions, row.closed = false → ∃ p, row.content = .booked p ∧ IsSound p

namespace HasSoundRows

variable {l : Ledger}

theorem openPosition (rows : HasSoundRows l) (sound : IsSound p) :
    HasSoundRows { l with positions := l.positions ++ [⟨.booked p, none, false⟩] } := by
  intro row mem
  rcases List.mem_append.1 mem with old | new
  · exact rows row old
  · rw [List.mem_singleton.1 new]
    intro
    exact ⟨p, rfl, sound⟩

/-- Rows stay sound when some of them are changed to rows that are. -/
theorem mapOpen {f : Ledger.PositionRow → Ledger.PositionRow} (rows : HasSoundRows l)
    (user symbol : String)
    (change : ∀ row q, row.content = .booked q → IsSound q → (f row).closed = false →
      ∃ q', (f row).content = .booked q' ∧ IsSound q') :
    HasSoundRows (l.mapOpen user symbol f) := by
  intro row mem opened
  obtain ⟨before, old, rfl⟩ := List.mem_map.1 mem
  split at opened
  · rename_i hit
    rw [if_pos hit]
    have unclosed : before.closed = false := by
      simp only [Ledger.PositionRow.isOpenFor, Bool.and_eq_true] at hit
      simpa using hit.1.1
    obtain ⟨q, content, sound⟩ := rows before old unclosed
    exact change before q content sound opened
  · rename_i missed
    rw [if_neg missed]
    exact rows before old opened

theorem exitNoted (rows : HasSoundRows l) (price : Decimal)
    (kept : after.isClosed = false → IsSound after) :
    HasSoundRows (Engine.exitNoted after price l) := by
  unfold Engine.exitNoted
  split
  · apply rows.mapOpen
    intro row q content sound opened
    cases opened
  · rename_i opened
    have sound' := kept (Bool.eq_false_iff.2 opened)
    apply rows.mapOpen
    intro row q content sound unclosed
    refine ⟨{ q with remaining := after.remaining, ladderHits := after.ladderHits }, ?_, ?_⟩
    · simp only [content, Ledger.PositionContent.withProgress]
    · exact sound.of_kept rfl rfl sound'.opened sound'.whole

/-- Booking a trade leaves the rows as they were, or as the second write leaves them. -/
theorem recordInto {trade : Trade} {next : Ledger → Except Ledger.Error Ledger}
    (rows : HasSoundRows l)
    (noted : ∀ l₁ l₂, HasSoundRows l₁ → next l₁ = .ok l₂ → HasSoundRows l₂) :
    HasSoundRows (Desk.recordInto l trade next).1 := by
  unfold Desk.recordInto
  split
  · exact rows
  · rename_i l₁ recorded
    have rows₁ : HasSoundRows l₁ := by
      rw [Ledger.recordFill_eq_ok recorded]
      exact rows
    split
    · exact rows₁
    · rename_i l₂ second
      exact noted l₁ l₂ rows₁ second

/-- The positions that are read from sound rows are sound. -/
theorem openPositions {ps : List Position} (rows : HasSoundRows l)
    (read : l.openPositions none = .ok ps) : ∀ p ∈ ps, IsSound p := by
  have each : ∀ row ∈ l.openRows none, ∃ p, row.content = .booked p ∧ IsSound p := by
    intro row mem
    rw [Ledger.openRows_none] at mem
    obtain ⟨old, unclosed⟩ := List.mem_filter.1 mem
    exact rows row old (by simpa using unclosed)
  have booked (rs : List Ledger.PositionRow)
      (each : ∀ row ∈ rs, ∃ p, row.content = .booked p ∧ IsSound p) :
      ∃ qs : List Position, rs.map (·.content) = qs.map .booked ∧ ∀ q ∈ qs, IsSound q := by
    induction rs with
    | nil => exact ⟨[], rfl, by simp⟩
    | cons row rs ih =>
      obtain ⟨q, content, sound⟩ := each row List.mem_cons_self
      obtain ⟨qs, contents, sounds⟩ := ih fun r mem ↦ each r (List.mem_cons_of_mem row mem)
      refine ⟨q :: qs, ?_, List.forall_mem_cons.2 ⟨sound, sounds⟩⟩
      rw [List.map_cons, List.map_cons, content, contents]
  obtain ⟨qs, contents, sounds⟩ := booked _ each
  have same := Ledger.guarded_eq_ok read
  rw [Ledger.readPositions_of_booked contents] at same
  cases same
  exact sounds

end HasSoundRows

/-! ## Sound desks -/

/-- A desk in whose book no two positions are of one user in one symbol, each is sound and has a flag
for every level, and in whose ledger the open rows are sound. -/
structure Desk.IsSound (levels : Nat) (d : Desk σ) : Prop where
  distinct : d.book.IsDistinct
  sound : ∀ p ∈ d.book, Execution.IsSound p
  flagged : ∀ p ∈ d.book, p.ladderHits.length = levels
  rows : HasSoundRows d.ledger

namespace Desk

theorem isSound_new (levels : Nat) (market : σ) (killSwitch : KillSwitch) (clock : Instant) :
    (Desk.new market killSwitch clock).IsSound levels :=
  ⟨List.Pairwise.nil, by simp [Desk.new], by simp [Desk.new],
    by simp [HasSoundRows, Desk.new, Ledger.empty]⟩

theorem IsSound.held {user symbol : String} (s : d.IsSound levels)
    (held : d.book.find? user symbol = some p) : Execution.IsSound p :=
  s.sound p (List.mem_of_find?_eq_some held)

/-- A desk stays sound while neither its book nor its rows change. -/
theorem IsSound.of_same (s : d.IsSound levels) (book : d'.book = d.book)
    (rows : d'.ledger.positions = d.ledger.positions) : d'.IsSound levels := by
  refine ⟨book ▸ s.distinct, book ▸ s.sound, book ▸ s.flagged, ?_⟩
  intro row mem
  rw [rows] at mem
  exact s.rows row mem

theorem IsSound.insert (s : d.IsSound levels) (sound : Execution.IsSound p)
    (flagged : p.ladderHits.length = levels) (rows : HasSoundRows d'.ledger)
    (book : d'.book = d.book.insert p) : d'.IsSound levels := by
  refine ⟨book ▸ s.distinct.insert p, ?_, ?_, rows⟩
  all_goals
    intro q mem
    rw [book] at mem
    rcases Book.mem_of_mem_insert mem with rfl | old
  · exact sound
  · exact s.sound q old
  · exact flagged
  · exact s.flagged q old

theorem IsSound.erase (s : d.IsSound levels) {user symbol : String} (rows : HasSoundRows d'.ledger)
    (book : d'.book = d.book.erase user symbol) : d'.IsSound levels := by
  refine ⟨book ▸ s.distinct.erase user symbol, ?_, ?_, rows⟩
  all_goals
    intro q mem
    rw [book] at mem
    have old := (List.mem_filter.1 mem).1
  · exact s.sound q old
  · exact s.flagged q old

end Desk

namespace Engine

/-- An entry keeps a desk sound, however it ends. -/
theorem enter?_isSound {entry : Entry} {o : Outcome σ Position}
    (s : d.IsSound e.settings.ladder.levels.length) (h : e.enter? d entry = some o) :
    o.desk.IsSound e.settings.ladder.levels.length := by
  cases enter?_step h with
  | barred => exact s
  | unfilled screened ordered answered =>
    obtain ⟨market, rfl⟩ := Desk.fill?_desk answered
    exact s.of_same rfl rfl
  | slipped screened ordered answered measured above unwound =>
    obtain ⟨market, rfl⟩ := Desk.fill?_desk answered
    obtain ⟨market', rfl⟩ := unwind?_desk unwound
    exact s.of_same rfl rfl
  | @filled order _ fill _ p fee screened ordered answered measured within formed charged =>
    obtain ⟨response, market, placed, checked, rfl⟩ := Desk.fill?_confirmed answered
    have sound := position?_isSound (screen_eq_ok_iff.1 screened) ordered checked formed
    have flagged : p.ladderHits.length = e.settings.ladder.levels.length := by
      obtain ⟨bounds, -, formed⟩ := Option.bind_eq_some_iff.1 formed
      cases formed
      exact List.length_replicate
    have rows : HasSoundRows (opened (d.afterOrder order market) entry fill p fee).desk.ledger := by
      rw [opened, Desk.bookTrade_desk]
      apply HasSoundRows.recordInto s.rows
      intro l₁ l₂ rows noted
      rw [Ledger.openPosition_eq_ok noted]
      exact rows.openPosition sound
    apply s.insert sound flagged rows
    rw [opened, Desk.bookTrade_desk]
    rfl

theorem noteExit_eq_ok {l l' : Ledger} {price : Decimal} (h : noteExit after price l = .ok l') :
    l' = exitNoted after price l := by
  unfold noteExit at h
  unfold exitNoted
  split at h
  · rename_i closed
    rw [if_pos closed]
    exact (Except.ok.inj (Ledger.guarded_eq_ok h)).symm
  · rename_i opened
    rw [if_neg opened]
    exact (Except.ok.inj (Ledger.guarded_eq_ok h)).symm

/-- The flags after an exit: that of its level is set, if it has one, and the others stay. -/
theorem afterExit?_ladderHits {x : Exit} {fill : Order.Confirmed}
    (reduced : afterExit? p x fill = some after) :
    after.ladderHits = match x.level with
      | none => p.ladderHits
      | some index => p.ladderHits.set index true := by
  obtain ⟨fraction, -, reduced⟩ := Option.bind_eq_some_iff.1 reduced
  obtain ⟨smaller, reduce, marked⟩ := Option.bind_eq_some_iff.1 reduced
  obtain ⟨remaining, -, reduce⟩ := Option.bind_eq_some_iff.1 reduce
  cases reduce
  cases marked
  cases x.level <;> rfl

/-- An exit keeps a desk sound, however it ends. -/
theorem exit?_isSound {x : Exit} {o : Outcome σ ExitReport} (s : d.IsSound levels)
    (h : e.exit? d x = some o) : o.desk.IsSound levels := by
  cases exit?_step h with
  | invalid => exact s
  | absent => exact s
  | unfilled inside held ordered answered =>
    obtain ⟨market, rfl⟩ := Desk.fill?_desk answered
    exact s.of_same rfl rfl
  | @filled p after order _ fill report inside held ordered answered reduced reported =>
    obtain ⟨market, rfl⟩ := Desk.fill?_desk answered
    have kept (opened : after.isClosed = false) : IsSound after :=
      afterExit?_isSound (s.held held) reduced opened
    have rows :
        HasSoundRows (settled (d.afterOrder order market) p after x fill report).desk.ledger := by
      rw [settled, Desk.bookTrade_desk]
      apply HasSoundRows.recordInto s.rows
      intro l₁ l₂ rows noted
      rw [noteExit_eq_ok noted]
      exact rows.exitNoted fill.price kept
    obtain ⟨ledger, desk⟩ := settled_desk (d.afterOrder order market) p after x fill report
    have book : (settled (d.afterOrder order market) p after x fill report).desk.book =
        bookAfter d.book after := by
      rw [desk]
      rfl
    cases closed : after.isClosed with
    | true =>
      rw [bookAfter, if_pos closed] at book
      exact s.erase rows book
    | false =>
      rw [bookAfter, if_neg (Bool.eq_false_iff.1 closed)] at book
      apply s.insert (kept closed) _ rows book
      have before := s.flagged p (List.mem_of_find?_eq_some held)
      rw [afterExit?_ladderHits reduced]
      split
      · exact before
      · rw [List.length_set]
        exact before

theorem restore_eq_ok {count : Nat} (h : e.restore d = .ok (d', count)) :
    ∃ stored, d.ledger.openPositions none = .ok stored ∧
      d' = { d with
        book :=
          (stored.map (·.resizeHits e.settings.ladder.levels.length)).foldl Book.insert d.book } := by
  unfold restore at h
  cases read : d.ledger.openPositions none with
  | error reason =>
    rw [read] at h
    cases h
  | ok stored =>
    rw [read] at h
    cases h
    exact ⟨stored, rfl, rfl⟩

/-- A restore changes the book and nothing else. -/
theorem restored_eq (e : Engine σ) (d : Desk σ) :
    ∃ book, e.restored d = { d with book := book } := by
  unfold restored
  split
  · exact ⟨d.book, rfl⟩
  · rename_i restored
    obtain ⟨stored, -, rfl⟩ := restore_eq_ok restored
    exact ⟨_, rfl⟩

/-- A restore keeps a desk sound, for an engine whose ladder the book was made for. -/
theorem restored_isSound (s : d.IsSound e.settings.ladder.levels.length) :
    (e.restored d).IsSound e.settings.ladder.levels.length := by
  unfold restored
  split
  · exact s
  · rename_i d' count restored
    obtain ⟨stored, read, rfl⟩ := restore_eq_ok restored
    refine ⟨s.distinct.foldl_insert _, ?_, ?_, s.rows⟩
    all_goals
      intro p mem
      rcases Book.mem_of_mem_foldl_insert mem with old | new
    · exact s.sound p old
    · obtain ⟨q, kept, rfl⟩ := List.mem_map.1 new
      have sound := s.rows.openPositions read q kept
      exact sound.of_kept rfl rfl sound.opened sound.whole
    · exact s.flagged p old
    · obtain ⟨q, kept, rfl⟩ := List.mem_map.1 new
      exact Position.length_ladderHits_resizeHits q _

end Engine

/-! ## Sound services -/

namespace Service

/-- Whether the desk of a service is sound for the ladder of its engine. -/
def IsSound (s : Service σ) : Prop :=
  s.desk.IsSound s.engine.settings.ladder.levels.length

theorem step?_isSound {s s' : Service σ} {event : Event σ} (sound : s.IsSound)
    (h : s.step? event = some s') : s'.IsSound := by
  cases event with
  | call call =>
    obtain ⟨d, performed, rfl⟩ := Option.map_eq_some_iff.1 h
    exact Engine.perform?_preserves Engine.enter?_isSound Engine.exit?_isSound sound performed
  | restore =>
    cases h
    exact Engine.restored_isSound sound
  | restart fresh killSwitch =>
    cases h
    apply Engine.restored_isSound
    exact ⟨List.Pairwise.nil, by simp [Desk.restarted], by simp [Desk.restarted], sound.rows⟩
  | meanwhile market killSwitch =>
    cases h
    exact Desk.IsSound.of_same sound rfl rfl
  | outage calls =>
    cases h
    exact Desk.IsSound.of_same sound rfl rfl

theorem isSound_new (engine : Engine σ) (market : σ) (killSwitch : KillSwitch) (clock : Instant) :
    (new engine market killSwitch clock).IsSound :=
  Desk.isSound_new _ market killSwitch clock

theorem run?_isSound {s s' : Service σ} {events : List (Event σ)} (sound : s.IsSound)
    (ran : s.run? events = some s') : s'.IsSound :=
  run?_induction (fun _ ↦ step?_isSound) sound ran

end Service

end TradingDesk.Execution
