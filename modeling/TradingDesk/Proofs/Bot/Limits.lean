import TradingDesk.Proofs.Bot.Balance
import TradingDesk.Proofs.Execution.Openings
import TradingDesk.Proofs.Risk.DailyCount

/-!
# Limits of a Bot

The limits of a user are checked by the risk manager, but what they bound is counted elsewhere: the
open positions in the book of the desk, and the entries of a day in the state of the user.  What
keeps a bot within its limits is the order of its calls.  Each look asks for consent right before it
sends an entry, with the number of positions that are open then, and it tells of an entry that went
through before the next look.

What a look asks of the risk manager is a list of requests in which entries follow checks that
allowed them, and as many entries are among them as the look put into the ledger.
-/

namespace TradingDesk

/-! ## What a risk manager is asked -/

namespace Risk

theorem Request.InOrder.append {requests later : List Request} (first : InOrder requests)
    (second : InOrder later)
    (between : ∀ d ∈ requests.filterMap date?, ∀ e ∈ later.filterMap date?, d ≤ e) :
    InOrder (requests ++ later) := by
  rw [InOrder, List.filterMap_append]
  exact List.pairwise_append.2 ⟨first, second, between⟩

/-- A position is allowed only beside fewer open ones than the limit. -/
theorem openPositions_lt_of_denial? {s : State} {limits : Settings} {size : Decimal}
    {openPositions : Nat} (h : denial? s limits size openPositions = some none) :
    openPositions < limits.maxOpenPositions := by
  unfold denial? at h
  split at h
  · cases h
  · split at h
    · cases h
    · rename_i below
      exact Nat.lt_of_not_le below

namespace Manager

open Request (entriesOn)

variable {m m' m'' : Manager} {user : String} {requests later : List Request} {day : Date}
  {days days' : List Date} {now : Instant} {n n' : Nat}

theorem openPositions_lt_of_allowed {size : Decimal} {openPositions : Nat}
    (allowed : m.check? user size openPositions now = some none) :
    openPositions < (m.settingsOf user).maxOpenPositions := by
  unfold check? at allowed
  split at allowed
  · cases allowed
  · exact openPositions_lt_of_denial? allowed

/-- Whether a manager served admitted requests, each of them on one of the days. -/
structure Served (user : String) (days : List Date) (m : Manager) (requests : List Request)
    (m' : Manager) : Prop where
  admits : m.Admits user requests
  run : m.serveAll? requests = some m'
  dated : ∀ r ∈ requests, ∃ day ∈ days, r.date? = some day

theorem served_nothing (user : String) (days : List Date) (m : Manager) :
    Served user days m [] m :=
  ⟨.start, rfl, by simp⟩

theorem Served.append (first : Served user days m requests m')
    (second : Served user days m' later m'') : Served user days m (requests ++ later) m'' := by
  refine ⟨first.admits.append first.run second.admits, ?_, ?_⟩
  · rw [serveAll?_append, first.run]
    exact second.run
  · intro r mem
    exact (List.mem_append.1 mem).elim (first.dated r) (second.dated r)

theorem Served.of_subset (served : Served user days m requests m') (subset : days ⊆ days') :
    Served user days' m requests m' := by
  refine ⟨served.admits, served.run, ?_⟩
  intro r mem
  obtain ⟨day, listed, dated⟩ := served.dated r mem
  exact ⟨day, subset listed, dated⟩

theorem Served.mem_days (served : Served user days m requests m')
    (mem : day ∈ requests.filterMap Request.date?) : day ∈ days := by
  obtain ⟨r, listed, dated⟩ := List.mem_filterMap.1 mem
  obtain ⟨day', mem', dated'⟩ := served.dated r listed
  rw [dated] at dated'
  cases dated'
  exact mem'

theorem Served.inOrder (served : Served user days m requests m')
    (same : ∀ d ∈ days, ∀ e ∈ days, d ≤ e) : Request.InOrder requests := by
  apply List.pairwise_of_forall_mem_list
  intro d mem e mem'
  exact same d (served.mem_days mem) e (served.mem_days mem')

/-- A call that sets limits has no day. -/
theorem Served.fixed (served : Served user days m requests m') (limits : Settings) :
    .call (.limits user limits) ∉ requests := by
  intro mem
  obtain ⟨day, -, dated⟩ := served.dated _ mem
  cases dated

theorem Served.settingsOf (served : Served user days m requests m') :
    m'.settingsOf user = m.settingsOf user :=
  settingsOf_serveAll? served.fixed served.run

/-- Requests of one day, with so many entries of a user among them. -/
def Asked (user : String) (day : Date) (n : Nat) (m m' : Manager) : Prop :=
  ∃ requests, Served user [day] m requests m' ∧
    ∀ other, entriesOn user other requests = if day = other then n else 0

theorem asked_nothing (user : String) (day : Date) (m : Manager) : Asked user day 0 m m :=
  ⟨[], served_nothing user [day] m, fun _ ↦ (ite_self 0).symm⟩

theorem Asked.trans (first : Asked user day n m m') (second : Asked user day n' m' m'') :
    Asked user day (n + n') m m'' := by
  obtain ⟨requests, served, entries⟩ := first
  obtain ⟨later, served', entries'⟩ := second
  refine ⟨requests ++ later, served.append served', ?_⟩
  intro other
  rw [Request.entriesOn_append, entries, entries']
  split <;> rfl

/-- A request that is no entry. -/
theorem asked_other {r : Request} (dated : r.date? = some day) (noEntry : ¬r.IsEntryOf user)
    (served : m.serve? r = some m') : Asked user day 0 m m' := by
  refine ⟨[r], ⟨Admits.start.other noEntry, ?_, ?_⟩, ?_⟩
  · exact (bind_pure _).trans served
  · exact List.forall_mem_singleton.2 ⟨day, List.mem_singleton_self day, dated⟩
  · intro other
    rw [Request.entriesOn_of_not_isEntryOf noEntry, ite_self]

theorem asked_touch (user : String) (m : Manager) (other : String) (now : Instant) :
    Asked user now.date 0 m (m.touch other now) :=
  asked_other (r := .call (.look other now)) rfl id rfl

theorem asked_trade {profit : Decimal} {other : String} {tripped : Bool}
    (booked : m.recordTrade? other profit now = some (m', tripped)) :
    Asked user now.date 0 m m' := by
  apply asked_other (r := .call (.trade other profit now)) rfl id
  rw [serve?, perform?, booked]
  rfl

/-- An entry that is counted after a check allowed it. -/
theorem asked_entry {size : Decimal} {openPositions : Nat}
    (allowed : m.check? user size openPositions now = some none)
    (counted : recordEntry? (m.touch user now) user now = some m') :
    Asked user now.date 1 m m' := by
  have checked : m.serve? (.call (.check user size openPositions now)) =
      some (m.touch user now) := by
    rw [serve?, perform?, allowed]
    rfl
  have before : m.Admits user ([] ++ [.call (.check user size openPositions now)]) :=
    Admits.start.other id
  refine ⟨[.call (.check user size openPositions now), .call (.entry user now)],
    ⟨before.entry rfl allowed, ?_, ?_⟩, ?_⟩
  · change (m.serve? _).bind _ = _
    rw [checked]
    exact (bind_pure _).trans counted
  · have today : now.date ∈ [now.date] := List.mem_singleton_self now.date
    exact List.forall_mem_cons.2 ⟨⟨_, today, rfl⟩, List.forall_mem_singleton.2 ⟨_, today, rfl⟩⟩
  · intro other
    exact Request.entriesOn_entry user now other

end Manager

end Risk

namespace Bot

open Execution
open Risk.Manager (Asked)

variable {σ : Type} {b : Bot σ} {s s' s'' : Session σ} {symbol : String} {now : Instant} {n : Nat}

/-! ## Looks -/

/-- Whether the risk manager consents to an entry, for its size and beside the positions that are
open. -/
def EntryAllowed (b : Bot σ) (s : Session σ) (now : Instant) (entry : Entry) : Prop :=
  s.risk.check? b.settings.user entry.size (s.desk.book.count b.settings.user) now = some none

/-- Whether orders of a look take something off the position that was open in its symbol, or are
those of the entry that the look proposes, to which the risk manager consents at the time of the
look. -/
def OrdersAllowed (b : Bot σ) (s : Session σ) (symbol : String) (candles : List Candle)
    (now : Instant) (orders : List Order.Request) : Prop :=
  orders = [] ∨
    (∃ p, s.desk.book.find? b.settings.user symbol = some p ∧
      ∀ order ∈ orders, order.symbol = symbol ∧ order.side = p.side.opposite) ∨
    ∃ entry, b.Proposes s symbol candles now entry ∧ b.EntryAllowed s now entry ∧
      entry.Orders orders

/-- What holds of a look however it ends, with the number of entries that went through in it and
what is known of its orders. -/
structure Looked (b : Bot σ) (s : Session σ) (now : Instant) (n : Nat)
    (allowed : List Order.Request → Prop) (s' : Session σ) : Prop where
  writable : s'.desk.Writable
  distinct : s'.desk.book.IsDistinct
  count : s'.desk.book.count b.settings.user ≤ s.desk.book.count b.settings.user ∨
    s'.desk.book.count b.settings.user ≤ (s.risk.settingsOf b.settings.user).maxOpenPositions
  entries : (s'.desk.ledger.entriesOf b.settings.user).length =
    (s.desk.ledger.entriesOf b.settings.user).length + n
  orders : ∃ orders, s'.desk.sent = s.desk.sent ++ orders ∧ allowed orders
  asked : Asked b.settings.user now.date n s.risk s'.risk

variable {allowed allowed' : List Order.Request → Prop}

theorem looked_of_same (w : s.desk.Writable) (distinct : s.desk.book.IsDistinct)
    (desk : s'.desk = s.desk) (nothing : allowed [])
    (asked : Asked b.settings.user now.date 0 s.risk s'.risk) : b.Looked s now 0 allowed s' := by
  refine ⟨?_, ?_, .inl ?_, ?_, ⟨[], ?_, nothing⟩, asked⟩
  · rwa [desk]
  · rwa [desk]
  · rw [desk]
  · rw [desk, Nat.add_zero]
  · rw [desk, List.append_nil]

/-- A look may begin by rolling the state of the user over. -/
theorem Looked.after_touch (looked : b.Looked s' now n allowed s'') (desk : s'.desk = s.desk)
    (risk : s'.risk = s.risk.touch b.settings.user now)
    (known : ∀ orders, allowed orders → allowed' orders) : b.Looked s now n allowed' s'' := by
  obtain ⟨writable, distinct, count, entries, ⟨orders, sent, allowed⟩, asked⟩ := looked
  rw [desk, risk, Risk.Manager.settingsOf_touch] at count
  rw [desk] at entries sent
  rw [risk] at asked
  refine ⟨writable, distinct, count, entries, ⟨orders, sent, known orders allowed⟩, ?_⟩
  rw [← Nat.zero_add n]
  exact (Risk.Manager.asked_touch _ _ _ _).trans asked

theorem foldlM_recordExit?_asked {user : String} {reports : List ExitReport}
    (h : reports.foldlM (fun s r ↦ s.recordExit? now r) s = some s') :
    Asked user now.date 0 s.risk s'.risk := by
  induction reports generalizing s with
  | nil =>
    cases h
    exact Risk.Manager.asked_nothing _ _ _
  | cons r reports ih =>
    obtain ⟨middle, first, rest⟩ := Option.bind_eq_some_iff.1 h
    obtain ⟨net, tally, returns, risk, tripped, -, -, booked, rfl⟩ :=
      Session.recordExit?_eq_some first
    exact (Risk.Manager.asked_trade booked).trans (ih rest)

/-- Exits take something off the position, and only results are booked. -/
theorem manageExits?_looked {p : Position} {price : Decimal} (w : s.desk.Writable)
    (distinct : s.desk.book.IsDistinct)
    (held : s.desk.book.find? b.settings.user symbol = some p)
    (h : b.manageExits? s now symbol price = some s') :
    b.Looked s now 0 (fun orders ↦ ∀ order ∈ orders, order.symbol = symbol ∧
      order.side = p.side.opposite) s' := by
  obtain ⟨⟨d, result⟩, checked, h⟩ := Option.bind_eq_some_iff.1 h
  obtain ⟨tried, attempts, -⟩ := Engine.check?_attempts checked
  -- stated of whatever is found, since an exit may leave nothing to the next one
  have sided : ∀ q, s.desk.book.find? b.settings.user symbol = some q → q.side = p.side := by
    intro q found
    rw [held] at found
    cases found
    rfl
  have reduces := attempts.reduces w distinct sided
  have after (desk : s'.desk = d) (asked : Asked b.settings.user now.date 0 s.risk s'.risk) :
      b.Looked s now 0 (fun orders ↦ ∀ order ∈ orders, order.symbol = symbol ∧
        order.side = p.side.opposite) s' := by
    subst desk
    exact ⟨reduces.writable, reduces.distinct, .inl (reduces.count _),
      congrArg List.length (reduces.entries _), reduces.sent, asked⟩
  cases result with
  | error error =>
    cases h
    exact after rfl (Risk.Manager.asked_nothing _ _ _)
  | ok reports =>
    exact after (desk_foldlM_recordExit? h)
      (foldlM_recordExit?_asked (s := { s with desk := d }) h)

/-- An entry is sent after the risk manager consented to it, and told of when it went through. -/
theorem sendEntry?_looked {entry : Entry} (w : s.desk.Writable)
    (distinct : s.desk.book.IsDistinct) (ofUser : entry.user = b.settings.user)
    (h : b.sendEntry? s now entry = some s') : ∃ n, b.Looked s now n
      (fun orders ↦ orders = [] ∨ b.EntryAllowed s now entry ∧ entry.Orders orders) s' := by
  have touched := Risk.Manager.asked_touch b.settings.user s.risk b.settings.user now
  cases sendEntry?_step h with
  | denied => exact ⟨0, looked_of_same w distinct rfl (.inl rfl) touched⟩
  | failed allowed entered =>
    obtain ⟨orders, sent, kind⟩ := Engine.enter?_orders entered
    obtain ⟨p, ⟨⟩, -⟩ | ⟨error, -, book, ledger⟩ := Engine.enter?_opens w entered
    refine ⟨0, Engine.enter?_writable w entered, ?_, .inl ?_, ?_,
      ⟨orders, sent, kind.imp id (⟨allowed, ·⟩)⟩, touched⟩
    · exact book ▸ distinct
    · exact Nat.le_of_eq (congrArg (Book.count · b.settings.user) book)
    · exact congrArg (fun l ↦ (Ledger.entriesOf l b.settings.user).length) ledger
  | entered allowed entered counted =>
    obtain ⟨orders, sent, kind⟩ := Engine.enter?_orders entered
    obtain ⟨p, -, opens⟩ | ⟨error, ⟨⟩, -⟩ := Engine.enter?_opens w entered
    obtain ⟨distinct', count, entries⟩ := opens
    rw [ofUser] at count entries
    refine ⟨1, Engine.enter?_writable w entered, distinct' distinct, .inr ?_, entries,
      ⟨orders, sent, kind.imp id (⟨allowed, ·⟩)⟩, Risk.Manager.asked_entry allowed counted⟩
    -- the check counted the positions that the entry found open, and it opened one more
    exact Nat.le_trans (Nat.le_of_eq count) (Risk.Manager.openPositions_lt_of_allowed allowed)

theorem tryEntry?_looked {candles : List Candle} {last previous : Candle} (w : s.desk.Writable)
    (distinct : s.desk.book.IsDistinct) (seen : Signal.lastTwo? candles = some (last, previous))
    (h : b.tryEntry? s now symbol candles previous last = some s') :
    ∃ n, b.Looked s now n (b.OrdersAllowed s symbol candles now) s' := by
  cases tryEntry?_step seen h with
  | unsignalled =>
    exact ⟨0, looked_of_same w distinct rfl (.inl rfl) (Risk.Manager.asked_nothing _ _ _)⟩
  | unsized =>
    exact ⟨0, looked_of_same w distinct rfl (.inl rfl) (Risk.Manager.asked_touch _ _ _ _)⟩
  | @sized entry _ proposed sent =>
    obtain ⟨n, looked⟩ := sendEntry?_looked
      (s := ((s.count Tally.countEvaluated).count Tally.countAllowed).touch b.settings.user now)
      w distinct proposed.key.1 sent
    refine ⟨n, looked.after_touch rfl rfl ?_⟩
    rintro orders (nothing | ⟨allowed, own⟩)
    · exact .inl nothing
    · -- the check was made after the state of the user was rolled over, which it does by itself
      have allowed : b.EntryAllowed s now entry :=
        (Risk.Manager.check?_touch _ _ _ _ _).symm.trans allowed
      exact .inr (.inr ⟨entry, proposed, allowed, own⟩)

theorem onCandles?_looked {candles : List Candle} (w : s.desk.Writable)
    (distinct : s.desk.book.IsDistinct) (h : b.onCandles? s now symbol candles = some s') :
    ∃ n, b.Looked s now n (b.OrdersAllowed s symbol candles now) s' := by
  unfold onCandles? at h
  split at h
  · cases h
    exact ⟨0, looked_of_same w distinct rfl (.inl rfl) (Risk.Manager.asked_nothing _ _ _)⟩
  · rename_i seen
    split at h
    · rename_i isOpen
      obtain ⟨p, held⟩ := Option.isSome_iff_exists.1 isOpen
      obtain ⟨writable, distinct', count, entries, ⟨orders, sent, opposite⟩, asked⟩ :=
        manageExits?_looked w distinct held h
      exact ⟨0, writable, distinct', count, entries,
        ⟨orders, sent, .inr (.inl ⟨p, held, opposite⟩)⟩, asked⟩
    · exact tryEntry?_looked w distinct seen h

/-! ## Steps -/

/-- The day of a move. -/
def Move.date? : Move σ → Option Date
  | .look _ _ now => some now.date
  | .begin | .save | .meanwhile _ _ => none

/-- The day of an event. -/
def Event.date? : Event σ → Option Date
  | .tick _ now | .look _ _ now => some now.date
  | .meanwhile _ _ => none

namespace Step

/-- The orders that are sent in a step. -/
def orders (step : Step σ) : List Order.Request :=
  step.after.desk.sent.drop step.before.desk.sent.length

/-- Whether the orders of a step are allowed ones of a look. -/
def OrdersAllowed (b : Bot σ) (step : Step σ) : Prop :=
  match step.move with
  | .look symbol candles now => b.OrdersAllowed step.before symbol candles now step.orders
  | .begin | .save | .meanwhile _ _ => step.orders = []

/-- The number of entries of a user that go through in a step on a day. -/
def entriesOn (user : String) (day : Date) (step : Step σ) : Nat :=
  if step.move.date? = some day then
    (step.after.desk.ledger.entriesOf user).length - (step.before.desk.ledger.entriesOf user).length
  else
    0

end Step

/-- Whether a session is within the limits of its user. -/
structure Session.Within (b : Bot σ) (limits : Risk.Settings) (s : Session σ) : Prop where
  writable : s.desk.Writable
  distinct : s.desk.book.IsDistinct
  settings : s.risk.settingsOf b.settings.user = limits
  count : s.desk.book.count b.settings.user ≤ limits.maxOpenPositions

variable {limits : Risk.Settings} {m : Move σ}

/-- A move sends only allowed orders and keeps the session within its limits. -/
theorem move?_within (within : s.Within b limits) (h : b.move? s m = some s') :
    s'.Within b limits ∧ Step.OrdersAllowed b ⟨s, m, s'⟩ := by
  obtain ⟨writable, distinct, settings, count⟩ := within
  cases m with
  | begin =>
    cases h
    exact ⟨⟨writable, distinct, settings, count⟩, List.drop_length⟩
  | save =>
    cases h
    exact ⟨⟨Session.writable_save writable, distinct, settings, count⟩, List.drop_length⟩
  | meanwhile market killSwitch =>
    cases h
    exact ⟨⟨⟨writable.online, writable.named⟩, distinct, settings, count⟩, List.drop_length⟩
  | look symbol candles now =>
    obtain ⟨n, looked⟩ := onCandles?_looked writable distinct h
    obtain ⟨orders, sent, allowed⟩ := looked.orders
    obtain ⟨requests, served, -⟩ := looked.asked
    refine ⟨⟨looked.writable, looked.distinct, ?_, ?_⟩, ?_⟩
    · rw [served.settingsOf, settings]
    · rw [← settings] at count ⊢
      exact looked.count.elim count.trans' id
    · have own : Step.orders ⟨s, .look symbol candles now, s'⟩ = orders := by
        rw [Step.orders, sent, List.drop_left]
      change b.OrdersAllowed s symbol candles now (Step.orders _)
      rwa [own]

/-- A move asks the risk manager for as many entries as it puts into the ledger. -/
theorem move?_served (within : s.Within b limits) (h : b.move? s m = some s') :
    ∃ requests, Risk.Manager.Served b.settings.user m.date?.toList s.risk requests s'.risk ∧
      ∀ day, Risk.Request.entriesOn b.settings.user day requests =
        Step.entriesOn b.settings.user day ⟨s, m, s'⟩ := by
  cases m with
  | begin | save | meanwhile =>
    cases h
    exact ⟨[], Risk.Manager.served_nothing _ _ _, fun _ ↦ rfl⟩
  | look symbol candles now =>
    obtain ⟨n, looked⟩ := onCandles?_looked within.writable within.distinct h
    obtain ⟨requests, served, entries⟩ := looked.asked
    refine ⟨requests, served, ?_⟩
    intro day
    rw [entries, Step.entriesOn, looked.entries, Nat.add_sub_cancel_left]
    exact if_congr Option.some_inj.symm rfl rfl

/-! ## Runs -/

theorem trace_of_fault (fault : b.move? s m = none) (rest : List (Move σ)) :
    b.trace s (m :: rest) = [] := by
  rw [trace, fault]
  rfl

theorem foldlM_move?_within {moves : List (Move σ)} (within : s.Within b limits)
    (ran : moves.foldlM b.move? s = some s') : s'.Within b limits := by
  induction moves generalizing s with
  | nil =>
    cases ran
    exact within
  | cons m rest ih =>
    obtain ⟨middle, moved, ran⟩ := Option.bind_eq_some_iff.1 ran
    exact ih (move?_within within moved).1 ran

/-- Every step of a run, also of one that ends in a fault, keeps to the limits. -/
theorem trace_within {moves : List (Move σ)} (within : s.Within b limits) :
    ∀ step ∈ b.trace s moves, step.after.Within b limits ∧ step.OrdersAllowed b := by
  induction moves generalizing s with
  | nil => simp [trace]
  | cons m rest ih =>
    cases moved : b.move? s m with
    | none => simp [trace_of_fault moved]
    | some s' =>
      rw [trace_cons moved, List.forall_mem_cons]
      exact ⟨move?_within within moved, ih (move?_within within moved).1⟩

/-- While days do not go back, a run asks the risk manager for its entries in the order of their
days. -/
theorem trace_served {moves : List (Move σ)} (within : s.Within b limits)
    (ordered : (moves.filterMap Move.date?).Pairwise (· ≤ ·)) :
    ∃ requests m', Risk.Manager.Served b.settings.user (moves.filterMap Move.date?) s.risk
        requests m' ∧
      Risk.Request.InOrder requests ∧
      ∀ day, Risk.Request.entriesOn b.settings.user day requests =
        ((b.trace s moves).map (Step.entriesOn b.settings.user day)).sum := by
  induction moves generalizing s with
  | nil =>
    exact ⟨[], s.risk, Risk.Manager.served_nothing _ _ _, .nil, fun _ ↦ rfl⟩
  | cons m rest ih =>
    cases moved : b.move? s m with
    | none =>
      rw [trace_of_fault moved]
      exact ⟨[], s.risk, Risk.Manager.served_nothing _ _ _, .nil, fun _ ↦ rfl⟩
    | some s' =>
      have days : (m :: rest).filterMap Move.date? =
          m.date?.toList ++ rest.filterMap Move.date? := by
        cases dated : m.date? <;> simp [dated]
      rw [days] at ordered ⊢
      obtain ⟨-, restOrdered, between⟩ := List.pairwise_append.1 ordered
      obtain ⟨requests, first, entries⟩ := move?_served within moved
      obtain ⟨later, m', second, laterOrdered, entries'⟩ :=
        ih (move?_within within moved).1 restOrdered
      -- the requests of a move are on its day, and the later ones on days of the rest
      have sameDay : ∀ d ∈ m.date?.toList, ∀ e ∈ m.date?.toList, d ≤ e := by
        intro d mem e mem'
        cases (Option.mem_toList.1 mem).symm.trans (Option.mem_toList.1 mem')
        exact Date.le_refl d
      refine ⟨requests ++ later, m', ?_, ?_, ?_⟩
      · exact (first.of_subset (List.subset_append_left _ _)).append
          (second.of_subset (List.subset_append_right _ _))
      · refine (first.inOrder sameDay).append laterOrdered ?_
        intro d mem e mem'
        exact between d (first.mem_days mem) e (second.mem_days mem')
      · intro day
        rw [Risk.Request.entriesOn_append, entries, entries', trace_cons moved]
        rfl

/-! ## Days of events -/

theorem date?_of_mem_moves {event : Event σ} {day : Date}
    (mem : day ∈ (b.moves event).filterMap Move.date?) : event.date? = some day := by
  obtain ⟨m, listed, dated⟩ := List.mem_filterMap.1 mem
  cases event with
  | tick feed now =>
    rcases List.mem_append.1 listed with listed | listed
    · rcases List.mem_cons.1 listed with rfl | listed
      · cases dated
      · obtain ⟨symbol, -, looked⟩ := List.mem_filterMap.1 listed
        obtain ⟨candles, -, rfl⟩ := Option.map_eq_some_iff.1 looked
        exact dated
    · cases List.mem_singleton.1 listed
      cases dated
  | look symbol candles now =>
    cases List.mem_singleton.1 listed
    exact dated
  | meanwhile market killSwitch =>
    cases List.mem_singleton.1 listed
    cases dated

/-- When the days of events do not go back, neither do those of their moves. -/
theorem pairwise_date?_moves {events : List (Event σ)}
    (ordered : (events.filterMap Event.date?).Pairwise (· ≤ ·)) :
    ((events.flatMap b.moves).filterMap Move.date?).Pairwise (· ≤ ·) := by
  rw [List.pairwise_filterMap] at ordered
  rw [List.filterMap_flatMap, List.pairwise_flatMap]
  constructor
  · intro event mem
    apply List.pairwise_of_forall_mem_list
    intro d first e second
    have same := (date?_of_mem_moves first).symm.trans (date?_of_mem_moves second)
    cases same
    exact Date.le_refl d
  · apply ordered.imp
    intro event later between d first e second
    exact between d (date?_of_mem_moves first) e (date?_of_mem_moves second)

/-! ## From the start of a bot -/

/-- A bot that starts without records is within the limits that the risk manager has for its user. -/
theorem initialize?_within {market : σ} {killSwitch : KillSwitch} {clock now : Instant}
    {risk : Risk.Manager} {result : Except String Unit}
    (started : b.initialize? (.new (.new market killSwitch clock) risk) now = some (s, result)) :
    s.Within b (risk.settingsOf b.settings.user) := by
  have within (risk' : Risk.Manager)
      (settings : risk'.settingsOf b.settings.user = risk.settingsOf b.settings.user) :
      Session.Within b (risk.settingsOf b.settings.user)
        (.new (.new market killSwitch clock) risk') :=
    ⟨Desk.writable_new _ _ _, .nil, settings, Nat.zero_le _⟩
  have touched := Risk.Manager.settingsOf_touch risk b.settings.user b.settings.user now
  rw [initialize?_new] at started
  split at started
  · cases started
    exact within _ touched
  · obtain ⟨risk', set, started⟩ := Option.map_eq_some_iff.1 started
    cases started
    apply within
    rw [← touched]
    exact Risk.Manager.settingsOf_perform?
      (c := .balance b.settings.user (b.engine.broker.balance market) now) (by simp) set

/-- A bot that started without records keeps to the limits of its user.  Whatever its looks send is
an exit, or the entry that the look proposed, of the size that the sizer gave at the last close, to
which the risk manager consented for this size at that look.  The positions never get more than
allowed, and there are never two in one symbol.  While days do not go back, in
particular as long as one lasts, no more entries than allowed go through on any of them; what
happened before, and when, does not matter. -/
theorem runs_keep_to_limits {market : σ} {killSwitch : KillSwitch} {clock now : Instant}
    {risk : Risk.Manager} {s₀ : Session σ} {result : Except String Unit}
    {earlier events : List (Event σ)}
    (started : b.initialize? (.new (.new market killSwitch clock) risk) now = some (s₀, result))
    (reached : earlier.foldlM b.step? s₀ = some s) :
    (∀ step ∈ b.trace s (events.flatMap b.moves),
      step.OrdersAllowed b ∧
        step.after.desk.book.count b.settings.user ≤
          (risk.settingsOf b.settings.user).maxOpenPositions ∧
        ∀ symbol, step.after.desk.book.countP (Book.isAt b.settings.user symbol) ≤ 1) ∧
      ((events.filterMap Event.date?).Pairwise (· ≤ ·) → ∀ day,
        ((b.trace s (events.flatMap b.moves)).map (Step.entriesOn b.settings.user day)).sum ≤
          (risk.settingsOf b.settings.user).maxDailyTrades) := by
  rw [foldlM_step?] at reached
  have within := foldlM_move?_within (initialize?_within started) reached
  constructor
  · intro step mem
    obtain ⟨after, allowed⟩ := trace_within within step mem
    exact ⟨allowed, after.count, after.distinct.count_isAt_le b.settings.user⟩
  · intro ordered day
    obtain ⟨requests, m', served, inOrder, entries⟩ :=
      trace_served within (pairwise_date?_moves ordered)
    rw [← entries day, ← within.settings]
    exact served.admits.entriesOn_le served.run inOrder served.fixed day

/-- A bot that would trade on every signal in two symbols. -/
def eagerInTwo : Bot Broker.Paper.State :=
  { eagerBot with settings := { eagerBot.settings with symbols := ["BTC-USD", "ETH-USD"] } }

/-- The session of the bot before its start, under a limit of one entry a day. -/
def cautiousStart : Session Broker.Paper.State :=
  .new (.new ((Broker.Paper.State.new .free).setPrice "BTC-USD" (Decimal.const 100 0))
    (KillSwitch.new none) Instant.epoch) (.new { Risk.Settings.standard with maxDailyTrades := 1 })

/-- In a tick with a signal in both symbols, the entry in the first one goes through, and the risk
manager denies the one in the second. -/
theorem cautious_run : ∃ s₀ s,
    eagerInTwo.initialize? cautiousStart Instant.epoch = some (s₀, .ok ()) ∧
      eagerInTwo.step? s₀ flatTick = some s ∧ s.tally.riskRejections = 1 ∧
      (s.desk.ledger.entriesOf "default").length = 1 := by
  -- the kernel cannot compute the indicators, so both looks are evaluated without them
  have ran : ∃ start ∈ eagerInTwo.initialize? cautiousStart Instant.epoch,
      ¬(start.1.desk.book.find? "default" "BTC-USD").isSome ∧
      ∃ s₁ ∈ eagerInTwo.enterLong? (start.1.count Tally.countTick) Instant.epoch "BTC-USD"
          [flat 100, flat 100] (flat 100) (flat 100),
        ¬(s₁.desk.book.find? "default" "ETH-USD").isSome ∧
        ∃ s₂ ∈ eagerInTwo.enterLong? s₁ Instant.epoch "ETH-USD" [flat 100, flat 100] (flat 100)
            (flat 100),
          s₂.save.tally.riskRejections = 1 ∧
            (s₂.save.desk.ledger.entriesOf "default").length = 1 := by
    decide +kernel
  obtain ⟨⟨s₀, result⟩, started, absent, s₁, entered, absent', s₂, denied, rejections, entries⟩ :=
    ran
  obtain ⟨-, rfl⟩ := initialize?_fresh started
  refine ⟨s₀, s₂.save, started, ?_, rejections, entries⟩
  have first : eagerInTwo.move? (s₀.count Tally.countTick)
      (.look "BTC-USD" [flat 100, flat 100] Instant.epoch) = some s₁ :=
    look_of_enterLong? rfl rfl absent entered
  have second :
      eagerInTwo.move? s₁ (.look "ETH-USD" [flat 100, flat 100] Instant.epoch) = some s₂ :=
    look_of_enterLong? rfl rfl absent' denied
  rw [step?_eq_moves]
  change (eagerInTwo.move? (s₀.count Tally.countTick) _).bind _ = _
  rw [first]
  change (eagerInTwo.move? s₁ _).bind _ = _
  rw [second]
  rfl

theorem runs_keep_to_limits_flatTick : ∃ s₀ s,
    eagerInTwo.initialize? cautiousStart Instant.epoch = some (s₀, .ok ()) ∧
      eagerInTwo.step? s₀ flatTick = some s ∧ s.tally.riskRejections = 1 ∧
      (s.desk.ledger.entriesOf "default").length = 1 ∧
      (∀ step ∈ eagerInTwo.trace s₀ ([flatTick].flatMap eagerInTwo.moves),
        step.OrdersAllowed eagerInTwo ∧ step.after.desk.book.count "default" ≤ 5 ∧
          ∀ symbol, step.after.desk.book.countP (Book.isAt "default" symbol) ≤ 1) ∧
      ∀ day, ((eagerInTwo.trace s₀ ([flatTick].flatMap eagerInTwo.moves)).map
        (Step.entriesOn "default" day)).sum ≤ 1 := by
  obtain ⟨s₀, s, started, ticked, rejections, entries⟩ := cautious_run
  have reached : [].foldlM eagerInTwo.step? s₀ = some s₀ := rfl
  refine ⟨s₀, s, started, ticked, rejections, entries, ?_, ?_⟩
  · exact (runs_keep_to_limits started reached).1
  · exact (runs_keep_to_limits started reached).2 (List.pairwise_singleton _ _)

end Bot

end TradingDesk
