import TradingDesk.Proofs.Calendar.Week
import TradingDesk.Proofs.Related
import TradingDesk.Proofs.Risk.Latch
import TradingDesk.Proofs.Risk.Step

/-!
# Rolling over is Unobservable

A state is rolled over only when something is done with its user, and reading it is enough.  Two runs
that differ in their reads therefore hold different states in between: one may have been rolled over
day by day, the other jumps over days and the end of a week at once.

While days do not go back, the detour leaves no trace.  What a state becomes on a later day does not
depend on whether it was rolled over in between, and every operation starts by rolling over.  Runs
that differ in reads thus make the same decisions, show the same states and end alike.

What booking a trade tells about the breaker is not among the answers: it compares with the breaker
as it was left, and a read on another day may have cleared it.
-/

namespace TradingDesk.Risk

/-! ## Detours of a state -/

namespace State

variable {s s' : State} {now later : Instant}

theorem rollOver_congr (s : State) (same : now.date = later.date) :
    s.rollOver now = s.rollOver later := by
  rw [rollOver, same, rollOver]

theorem startDay_toWeek (s : State) (week : Date.Week) (day : Date) :
    (s.toWeek week).startDay day = (s.startDay day).toWeek week := by
  unfold toWeek
  by_cases same : week = s.lastResetWeek
  · rw [if_pos same]
    exact (if_pos same).symm
  · rw [if_neg same]
    exact (if_neg same).symm

/-- A week that starts in between leaves no trace in another week. -/
theorem toWeek_toWeek {first second : Date.Week}
    (between : s.lastResetWeek = second → first = second) :
    (s.toWeek first).toWeek second = s.toWeek second := by
  by_cases stays : first = s.lastResetWeek
  · rw [toWeek, toWeek, if_pos stays, toWeek]
  · have starts : s.toWeek first = s.startWeek first := if_neg stays
    by_cases same : second = first
    · have stayed : (s.startWeek first).toWeek second = s.startWeek first := if_pos same
      rw [starts, stayed, same, starts]
    · have again : (s.startWeek first).toWeek second = s.startWeek second := if_neg same
      have another : second ≠ s.lastResetWeek := by
        intro back
        exact same (between back.symm).symm
      rw [starts, again, toWeek, if_neg another]

/-- Rolling a state over on the way to a later day leaves no trace. -/
theorem rollOver_rollOver_of_le (dated : s.IsDated) (past : s.lastResetDate ≤ now.date)
    (le : now.date ≤ later.date) : (s.rollOver now).rollOver later = s.rollOver later := by
  by_cases today : now.date = s.lastResetDate
  · rw [rollOver_of_today dated today]
  by_cases same : later.date = now.date
  · rw [rollOver_congr _ same, rollOver_rollOver, rollOver_congr s same]
  · have beyond : later.date ≠ s.lastResetDate := by
      intro back
      exact same (Date.le_antisymm (back ▸ past) le)
    have another : later.date ≠ (s.rollOver now).lastResetDate := by
      rwa [lastResetDate_rollOver]
    have weeks : (s.startDay later.date).lastResetWeek = later.date.isoWeek →
        now.date.isoWeek = later.date.isoWeek := by
      intro ends
      apply Date.isoWeek_eq_of_between past le
      rw [← dated]
      exact ends
    calc (s.rollOver now).rollOver later
        = ((s.rollOver now).startDay later.date).toWeek later.date.isoWeek :=
          rollOver_of_other_day another
      _ = (((s.startDay now.date).toWeek now.date.isoWeek).startDay later.date).toWeek
            later.date.isoWeek := by rw [rollOver_of_other_day today]
      _ = (((s.startDay later.date).toWeek now.date.isoWeek).toWeek later.date.isoWeek) := by
          rw [startDay_toWeek]
          rfl
      _ = (s.startDay later.date).toWeek later.date.isoWeek := toWeek_toWeek weeks
      _ = s.rollOver later := (rollOver_of_other_day beyond).symm

/-- What an operation at a time leaves: the week is that of the day, and the day that of the time. -/
structure IsFrom (s : State) (now : Instant) : Prop where
  dated : s.IsDated
  date : s.lastResetDate = now.date

theorem isFrom_new (user : String) (balance : Decimal) (now : Instant) :
    (new user balance now).IsFrom now :=
  ⟨isDated_new user balance now, rfl⟩

theorem isFrom_rollOver (s : State) (now : Instant) : (s.rollOver now).IsFrom now :=
  ⟨isDated_rollOver s now, lastResetDate_rollOver s now⟩

theorem IsFrom.measured (kept : s.IsFrom now) (h : Measured s s' now) : s'.IsFrom now := by
  rw [h.eq]
  exact ⟨kept.dated, kept.date⟩

theorem isFrom_recordEntry? (h : s.recordEntry? now = some s') : s'.IsFrom now := by
  have rolled := isFrom_rollOver s now
  rw [recordEntry?_eq_some h]
  exact ⟨rolled.dated, rolled.date⟩

theorem isFrom_recordTrade? {profit limit : Decimal}
    (h : s.recordTrade? profit limit now = some s') : s'.IsFrom now := by
  have rolled := isFrom_rollOver s now
  obtain ⟨balance, daily, weekly, losses, -, measured⟩ := recordTrade?_eq_some h
  apply IsFrom.measured _ measured
  exact ⟨rolled.dated, rolled.date⟩

theorem isFrom_setBalance? {balance limit : Decimal}
    (h : s.setBalance? balance limit now = some s') : s'.IsFrom now := by
  have rolled := isFrom_rollOver s now
  obtain ⟨dayStart, weekStart, measured⟩ := setBalance?_eq_some h
  apply IsFrom.measured _ measured
  exact ⟨rolled.dated, rolled.date⟩

theorem recordEntry?_congr (same : s.rollOver now = s'.rollOver now) :
    s.recordEntry? now = s'.recordEntry? now := by
  unfold recordEntry?
  rw [same]

theorem recordTrade?_congr (same : s.rollOver now = s'.rollOver now) (profit limit : Decimal) :
    s.recordTrade? profit limit now = s'.recordTrade? profit limit now := by
  rw [recordTrade?, same, recordTrade?]

theorem setBalance?_congr (same : s.rollOver now = s'.rollOver now) (balance limit : Decimal) :
    s.setBalance? balance limit now = s'.setBalance? balance limit now := by
  rw [setBalance?, same, setBalance?]

end State

/-! ## Runs with extra reads -/

/-- Whether a call is a check or a look. -/
def Call.IsRead : Call → Prop
  | check _ _ _ _ | look _ _ => True
  | entry _ _ | trade _ _ _ | balance _ _ _ | limits _ _ => False

/-- A call of a run, or a read that was inserted into it. -/
inductive Turn where
  | asked (c : Call)
  | extra (c : Call) (read : c.IsRead)

namespace Turn

/-- The call of a turn. -/
def call : Turn → Call
  | asked c | extra c _ => c

/-- Whether a turn is a call of the run itself. -/
def isAsked : Turn → Bool
  | asked _ => true
  | extra _ _ => false

/-- The time of a turn. -/
def time? (t : Turn) : Option Instant :=
  t.call.time?

/-- The day of a turn. -/
def date? (t : Turn) : Option Date :=
  t.time?.map Instant.date

/-- The run without the reads that were inserted. -/
def original (turns : List Turn) : List Turn :=
  turns.filter isAsked

end Turn

/-- What a check or a look tells. -/
inductive Answer where
  | decision (denial : Option Denial)
  | snapshot (s : Option State)

namespace Manager

variable {m m' n n' : Manager} {user : String} {day last : Date} {now : Instant} {c : Call}

/-- The answers to a call. -/
def answers (m : Manager) : Call → List Answer
  | .check user size openPositions now =>
    (m.check? user size openPositions now).toList.map Answer.decision
  | .look user now => [.snapshot (m.state? user now)]
  | .entry _ _ | .trade _ _ _ | .balance _ _ _ | .limits _ _ => []

/-- The answers to the calls of the run itself, and the manager at the end. -/
def follow? (m : Manager) : List Turn → Option (List Answer × Manager)
  | [] => some ([], m)
  | .asked c :: turns => do
    let m' ← m.perform? c
    let (answers, last) ← m'.follow? turns
    some (m.answers c ++ answers, last)
  | .extra c _ :: turns => do
    let m' ← m.perform? c
    m'.follow? turns

/-- Whether every inserted read that is reached is answered; a check can fail on amounts that leave
their range. -/
def Replies (m : Manager) : List Turn → Prop
  | [] => True
  | .asked c :: turns => ∀ m', m.perform? c = some m' → m'.Replies turns
  | .extra c _ :: turns => ∃ m', m.perform? c = some m' ∧ m'.Replies turns

/-! ## Managers that agree from a day on -/

/-- Whether two managers are the same to every user from a day on. -/
structure Agree (m n : Manager) (day : Date) : Prop where
  defaults : m.defaults = n.defaults
  overrides : m.overrides = n.overrides
  state? : ∀ user now, day ≤ now.date → m.state? user now = n.state? user now

/-- Whether every state is of a day, and not of a later one. -/
def Settled (m : Manager) (day : Date) : Prop :=
  ∀ user s, m.stored? user = some s → s.IsDated ∧ s.lastResetDate ≤ day

theorem Agree.mono (agree : m.Agree n day) (le : day ≤ last) : m.Agree n last :=
  ⟨agree.defaults, agree.overrides, fun user now from' ↦
    agree.state? user now (Date.le_trans le from')⟩

theorem Settled.mono (settled : m.Settled day) (le : day ≤ last) : m.Settled last := by
  intro user s known
  obtain ⟨dated, past⟩ := settled user s known
  exact ⟨dated, Date.le_trans past le⟩

theorem Agree.settingsOf (agree : m.Agree n day) (user : String) :
    m.settingsOf user = n.settingsOf user := by
  rw [Manager.settingsOf, agree.defaults, agree.overrides, Manager.settingsOf]

theorem state?_file_self (m : Manager) (user : String) (s : State) (now : Instant) :
    (m.file user s).state? user now = some (s.rollOver now) := by
  rw [Manager.state?, stored?_file_self]
  rfl

theorem state?_file_of_ne (m : Manager) {other : String} (ne : other ≠ user) (s : State)
    (now : Instant) : (m.file user s).state? other now = m.state? other now := by
  rw [Manager.state?, stored?_file_of_ne m ne, Manager.state?]

/-- Filing one state in both managers. -/
theorem Agree.file (agree : m.Agree n day) (user : String) (s : State) :
    (m.file user s).Agree (n.file user s) day := by
  refine ⟨agree.defaults, agree.overrides, ?_⟩
  intro other now from'
  by_cases own : other = user
  · rw [own, state?_file_self, state?_file_self]
  · rw [state?_file_of_ne m own, state?_file_of_ne n own]
    exact agree.state? other now from'

theorem Settled.file {s : State} (settled : m.Settled now.date) (left : s.IsFrom now)
    (user : String) : (m.file user s).Settled now.date := by
  intro other t known
  by_cases own : other = user
  · rw [own, stored?_file_self] at known
    cases known
    exact ⟨left.dated, left.date ▸ Date.le_refl _⟩
  · rw [stored?_file_of_ne m own] at known
    exact settled other t known

/-- Rolling one of two managers over on the way leaves no trace. -/
theorem Agree.touch (agree : m.Agree n now.date) (settled : m.Settled now.date) (user : String) :
    (m.touch user now).Agree n now.date := by
  unfold Manager.touch
  split
  · exact agree
  · rename_i s known
    obtain ⟨dated, past⟩ := settled user s known
    refine ⟨agree.defaults, agree.overrides, ?_⟩
    intro other later from'
    rw [← agree.state? other later from']
    by_cases own : other = user
    · rw [own, state?_file_self, State.rollOver_rollOver_of_le dated past from', Manager.state?,
        known]
      rfl
    · exact state?_file_of_ne m own _ later

theorem Settled.touch (settled : m.Settled now.date) (user : String) :
    (m.touch user now).Settled now.date := by
  unfold Manager.touch
  split
  · exact settled
  · exact settled.file (State.isFrom_rollOver _ now) user

/-! ## Calls of managers that agree -/

/-- Whether two managers were left alone by a call, or got the same state of its user. -/
def Alike (m n : Manager) (user : String) (now : Instant) (m' n' : Manager) : Prop :=
  (m' = m ∧ n' = n) ∨ ∃ s, s.IsFrom now ∧ m' = m.file user s ∧ n' = n.file user s

/-- Managers that agree know the same users, with states that roll over alike. -/
theorem Agree.stored?_cases (agree : m.Agree n day) (le : day ≤ now.date) (user : String) :
    (m.stored? user = none ∧ n.stored? user = none) ∨
      ∃ s t, m.stored? user = some s ∧ n.stored? user = some t ∧
        s.rollOver now = t.rollOver now := by
  have same := agree.state? user now le
  unfold Manager.state? at same
  cases known : m.stored? user with
  | none =>
    rw [known] at same
    exact .inl ⟨rfl, Option.map_eq_none_iff.1 same.symm⟩
  | some s =>
    rw [known] at same
    obtain ⟨t, known', rolled⟩ := Option.map_eq_some_iff.1 same.symm
    exact .inr ⟨s, t, rfl, known', rolled.symm⟩

theorem Agree.check? (agree : m.Agree n day) (le : day ≤ now.date) (user : String)
    (size : Decimal) (openPositions : Nat) :
    m.check? user size openPositions now = n.check? user size openPositions now := by
  rw [Manager.check?, agree.state? user now le, agree.settingsOf, Manager.check?]

theorem Agree.answers (agree : m.Agree n day) (le : ∀ now, c.time? = some now → day ≤ now.date) :
    m.answers c = n.answers c := by
  cases c with
  | check user size openPositions now =>
    rw [Manager.answers, agree.check? (le now rfl), Manager.answers]
  | look user now => rw [Manager.answers, agree.state? user now (le now rfl), Manager.answers]
  | entry | trade | balance | limits => rfl

theorem Agree.touch_alike (agree : m.Agree n day) (le : day ≤ now.date) (user : String) :
    Alike m n user now (m.touch user now) (n.touch user now) := by
  obtain ⟨unknown, unknown'⟩ | ⟨s, t, known, known', rolled⟩ := agree.stored?_cases le user
  · rw [Manager.touch, unknown, Manager.touch, unknown']
    exact .inl ⟨rfl, rfl⟩
  · rw [touch_of_stored known, touch_of_stored known', rolled]
    exact .inr ⟨_, State.isFrom_rollOver t now, rfl, rfl⟩

/-- A state that a call makes is filed in both managers. -/
theorem rel_file {made : Option State} (left : ∀ s, made = some s → s.IsFrom now) :
    Option.Rel (Alike m n user now) (made.map (m.file user)) (made.map (n.file user)) := by
  cases made with
  | none => exact .none
  | some s => exact .some (.inr ⟨s, left s rfl, rfl, rfl⟩)

/-- A call at a time does the same to managers that agree: operations begin by rolling over. -/
theorem Agree.perform? (agree : m.Agree n day) (timed : c.time? = some now)
    (le : day ≤ now.date) :
    Option.Rel (Alike m n c.user now) (m.perform? c) (n.perform? c) := by
  cases c with
  | check user size openPositions now =>
    cases timed
    rw [Manager.perform?, Manager.perform?, agree.check? le]
    cases n.check? user size openPositions now with
    | none => exact .none
    | some answer => exact .some (agree.touch_alike le user)
  | look user now =>
    cases timed
    exact .some (agree.touch_alike le user)
  | entry user now =>
    cases timed
    obtain ⟨unknown, unknown'⟩ | ⟨s, t, known, known', rolled⟩ := agree.stored?_cases le user
    · rw [perform?_entry_of_unknown unknown, perform?_entry_of_unknown unknown']
      exact .some (.inl ⟨rfl, rfl⟩)
    · rw [perform?_entry known, perform?_entry known', State.recordEntry?_congr rolled]
      exact rel_file fun _ ↦ State.isFrom_recordEntry?
  | trade user profit now =>
    cases timed
    rw [perform?_trade, perform?_trade, agree.settingsOf]
    obtain ⟨unknown, unknown'⟩ | ⟨s, t, known, known', rolled⟩ := agree.stored?_cases le user
    · rw [unknown, unknown']
      exact rel_file fun _ ↦ State.isFrom_recordTrade?
    · rw [known, known', Option.getD_some, Option.getD_some, State.recordTrade?_congr rolled]
      exact rel_file fun _ ↦ State.isFrom_recordTrade?
  | balance user balance now =>
    cases timed
    obtain ⟨unknown, unknown'⟩ | ⟨s, t, known, known', rolled⟩ := agree.stored?_cases le user
    · rw [perform?_balance_of_unknown unknown, perform?_balance_of_unknown unknown']
      apply rel_file
      rintro s ⟨⟩
      exact State.isFrom_new user balance now
    · rw [perform?_balance known, perform?_balance known', agree.settingsOf,
        State.setBalance?_congr rolled]
      exact rel_file fun _ ↦ State.isFrom_setBalance?
  | limits user settings => cases timed

theorem Alike.agree (alike : Alike m n user now m' n') (agree : m.Agree n now.date) :
    m'.Agree n' now.date := by
  obtain ⟨rfl, rfl⟩ | ⟨s, -, rfl, rfl⟩ := alike
  · exact agree
  · exact agree.file user s

theorem Alike.settled (alike : Alike m n user now m' n') (settled : m.Settled now.date) :
    m'.Settled now.date := by
  obtain ⟨rfl, rfl⟩ | ⟨s, left, rfl, rfl⟩ := alike
  · exact settled
  · exact settled.file left user

/-- A call without a time gives a user limits. -/
theorem perform?_of_untimed (untimed : c.time? = none) :
    ∃ user settings, ∀ m : Manager, m.perform? c = some (m.setSettings user settings) := by
  cases c with
  | limits user settings => exact ⟨user, settings, fun _ ↦ rfl⟩
  | check | look | entry | trade | balance => cases untimed

theorem Agree.setSettings (agree : m.Agree n day) (user : String) (settings : Settings) :
    (m.setSettings user settings).Agree (n.setSettings user settings) day :=
  ⟨agree.defaults, congrArg (·.insert user settings) agree.overrides, agree.state?⟩

/-- A read that is answered rolls its user over. -/
theorem perform?_of_read (read : c.IsRead) (h : m.perform? c = some m') :
    ∃ now, c.time? = some now ∧ m' = m.touch c.user now := by
  cases c with
  | check user size openPositions now =>
    obtain ⟨answer, -, rfl⟩ := Option.map_eq_some_iff.1 h
    exact ⟨now, rfl, rfl⟩
  | look user now =>
    cases h
    exact ⟨now, rfl, rfl⟩
  | entry | trade | balance | limits => exact absurd read id

/-! ## Runs of managers that agree -/

/-- After a call of both runs the managers agree from a day that is not after the later turns. -/
theorem Agree.asked {turns : List Turn} (agree : m.Agree n day) (settled : m.Settled day)
    (ordered : (day :: (Turn.asked c :: turns).filterMap Turn.date?).Pairwise (· ≤ ·))
    (upTo : ∀ d ∈ day :: (Turn.asked c :: turns).filterMap Turn.date?, d ≤ last) :
    ∃ day', (∀ now, c.time? = some now → day ≤ now.date) ∧
      (day' :: turns.filterMap Turn.date?).Pairwise (· ≤ ·) ∧
      (∀ d ∈ day' :: turns.filterMap Turn.date?, d ≤ last) ∧
      Option.Rel (fun m' n' ↦ m'.Agree n' day' ∧ m'.Settled day')
        (m.perform? c) (n.perform? c) := by
  cases timed : c.time? with
  | none =>
    have undated : (Turn.asked c).date? = none := congrArg (Option.map Instant.date) timed
    rw [List.filterMap_cons_none undated] at ordered upTo
    obtain ⟨user, settings, given⟩ := perform?_of_untimed timed
    refine ⟨day, ?_, ordered, upTo, ?_⟩
    · rintro now ⟨⟩
    rw [given, given]
    exact .some ⟨agree.setSettings user settings, settled⟩
  | some now =>
    have dated : (Turn.asked c).date? = some now.date := congrArg (Option.map Instant.date) timed
    rw [List.filterMap_cons_some dated] at ordered upTo
    obtain ⟨since, ordered'⟩ := List.pairwise_cons.1 ordered
    have le : day ≤ now.date := since _ List.mem_cons_self
    refine ⟨now.date, ?_, ordered', fun d mem ↦ upTo d (List.mem_cons_of_mem _ mem), ?_⟩
    · rintro _ ⟨⟩
      exact le
    · apply rel_imp (agree.perform? timed le)
      intro m' n' alike
      exact ⟨alike.agree (agree.mono le), alike.settled (settled.mono le)⟩

/-- Runs that differ in reads have the same answers, and end with managers that agree. -/
theorem Agree.follow? {turns : List Turn} (agree : m.Agree n day) (settled : m.Settled day)
    (ordered : (day :: turns.filterMap Turn.date?).Pairwise (· ≤ ·))
    (upTo : ∀ d ∈ day :: turns.filterMap Turn.date?, d ≤ last) (replies : m.Replies turns) :
    Option.Rel (fun p q ↦ p.1 = q.1 ∧ p.2.Agree q.2 last)
      (m.follow? turns) (n.follow? (Turn.original turns)) := by
  induction turns generalizing m n day with
  | nil => exact .some ⟨rfl, agree.mono (upTo day List.mem_cons_self)⟩
  | cons turn turns ih =>
    cases turn with
    | asked c =>
      obtain ⟨day', since, ordered', upTo', both⟩ := agree.asked settled ordered upTo
      change Option.Rel _ _ (n.follow? (.asked c :: Turn.original turns))
      rw [Manager.follow?, Manager.follow?, agree.answers since]
      rw [Replies] at replies
      apply rel_bind both
      rintro m' n' performed ⟨agree', settled'⟩
      apply rel_bind (ih agree' settled' ordered' upTo' (replies m' performed))
      rintro ⟨answers, m''⟩ ⟨-, n''⟩ - ⟨rfl, agree''⟩
      exact .some ⟨rfl, agree''⟩
    | extra c read =>
      obtain ⟨m', performed, replies⟩ := replies
      obtain ⟨now, timed, rfl⟩ := perform?_of_read read performed
      have dated : (Turn.extra c read).date? = some now.date :=
        congrArg (Option.map Instant.date) timed
      rw [List.filterMap_cons_some dated] at ordered upTo
      obtain ⟨since, ordered'⟩ := List.pairwise_cons.1 ordered
      have le : day ≤ now.date := since _ List.mem_cons_self
      rw [Manager.follow?, performed]
      apply ih ((agree.mono le).touch (settled.mono le) c.user) ((settled.mono le).touch c.user)
        ordered' _ replies
      intro d mem
      exact upTo d (List.mem_cons_of_mem _ mem)

theorem exists_last (dates : List Date) : ∃ last, ∀ d ∈ dates, d ≤ last := by
  induction dates with
  | nil => exact ⟨⟨0⟩, fun d mem ↦ absurd mem List.not_mem_nil⟩
  | cons day dates ih =>
    obtain ⟨last, upTo⟩ := ih
    rcases Int.le_total day.days last.days with le | le
    · exact ⟨last, List.forall_mem_cons.2 ⟨le, upTo⟩⟩
    · refine ⟨day, List.forall_mem_cons.2 ⟨Date.le_refl day, ?_⟩⟩
      intro d mem
      exact Date.le_trans (upTo d mem) le

/-- Calls that are in order start on a day that is not after any of them. -/
theorem exists_day {dates : List Date} (ordered : dates.Pairwise (· ≤ ·))
    (upTo : ∀ d ∈ dates, d ≤ last) :
    ∃ day, (day :: dates).Pairwise (· ≤ ·) ∧ ∀ d ∈ day :: dates, d ≤ last := by
  cases dates with
  | nil =>
    exact ⟨last, List.pairwise_singleton _ _, List.forall_mem_singleton.2 (Date.le_refl last)⟩
  | cons day dates =>
    have since := (List.pairwise_cons.1 ordered).1
    have twice : ∀ d ∈ day :: dates, day ≤ d := List.forall_mem_cons.2 ⟨Date.le_refl day, since⟩
    refine ⟨day, List.pairwise_cons.2 ⟨twice, ordered⟩, ?_⟩
    exact List.forall_mem_cons.2 ⟨upTo day List.mem_cons_self, upTo⟩

theorem Agree.refl (m : Manager) (day : Date) : m.Agree m day :=
  ⟨rfl, rfl, fun _ _ _ ↦ rfl⟩

theorem settled_of_no_states (empty : m.states = []) (day : Date) : m.Settled day := by
  intro user s known
  rw [stored?, empty] at known
  cases known

/-- Runs from one manager that differ in reads, seen from a day on that no turn is after. -/
theorem follow?_related {turns : List Turn} (empty : m.states = [])
    (ordered : (turns.filterMap Turn.date?).Pairwise (· ≤ ·)) (replies : m.Replies turns)
    (upTo : ∀ d ∈ turns.filterMap Turn.date?, d ≤ last) :
    Option.Rel (fun p q ↦ p.1 = q.1 ∧ p.2.Agree q.2 last)
      (m.follow? turns) (m.follow? (Turn.original turns)) := by
  obtain ⟨day, ordered, upTo⟩ := exists_day ordered upTo
  exact (Agree.refl m day).follow? (settled_of_no_states empty day) ordered upTo replies

/-- Reads that are inserted into a run while times do not go back, and that are answered, change
neither the answers to the calls of the run nor what is seen of any user at the end or later. -/
theorem reads_unobservable {turns : List Turn} (empty : m.states = [])
    (ordered : (turns.filterMap Turn.time?).Pairwise (· ≤ ·)) (replies : m.Replies turns) :
    (m.follow? turns).map (·.1) = (m.follow? (Turn.original turns)).map (·.1) ∧
      ∀ user now, (∀ time ∈ turns.filterMap Turn.time?, time ≤ now) →
        (m.follow? turns).map (·.2.state? user now) =
          (m.follow? (Turn.original turns)).map (·.2.state? user now) := by
  have dates : turns.filterMap Turn.date? = (turns.filterMap Turn.time?).map Instant.date :=
    List.map_filterMap.symm
  have days : (turns.filterMap Turn.date?).Pairwise (· ≤ ·) := by
    rw [dates]
    exact ordered.map Instant.date fun _ _ le ↦ Instant.date_mono le
  constructor
  · obtain ⟨last, upTo⟩ := exists_last (turns.filterMap Turn.date?)
    exact map_eq_of_rel (follow?_related empty days replies upTo) fun _ _ both ↦ both.1
  · intro user now past
    have upTo : ∀ d ∈ turns.filterMap Turn.date?, d ≤ now.date := by
      rw [dates]
      intro d mem
      obtain ⟨time, timed, rfl⟩ := List.mem_map.1 mem
      exact Instant.date_mono (past time timed)
    apply map_eq_of_rel (follow?_related empty days replies upTo)
    intro p q both
    exact both.2.state? user now (Date.le_refl now.date)

/-- In a run that goes through, every read was answered. -/
theorem replies_of_follow? {turns : List Turn} (ran : (m.follow? turns).isSome) :
    m.Replies turns := by
  induction turns generalizing m with
  | nil => exact trivial
  | cons turn turns ih =>
    obtain ⟨⟨answers, m'⟩, ran⟩ := Option.isSome_iff_exists.1 ran
    cases turn with
    | asked c =>
      obtain ⟨between, performed, ran⟩ := Option.bind_eq_some_iff.1 ran
      obtain ⟨rest, ran, -⟩ := Option.bind_eq_some_iff.1 ran
      rintro other performed'
      rw [performed] at performed'
      cases performed'
      exact ih (Option.isSome_iff_exists.2 ⟨rest, ran⟩)
    | extra c read =>
      obtain ⟨between, performed, ran⟩ := Option.bind_eq_some_iff.1 ran
      exact ⟨between, performed, ih (Option.isSome_iff_exists.2 ⟨_, ran⟩)⟩

/-- A loss on a Thursday that halts trading, and a gain, a check and a look five days later.  Reads
in between see the next day, a user without a state, and the next week. -/
def detour : List Turn :=
  let size := Decimal.const 100 0
  [.asked (.balance "u" (Decimal.const 10000 0) (.noon 0)), .asked (.entry "u" (.noon 0)),
    .asked (.trade "u" (Decimal.const 400 0).neg (.noon 0)),
    .extra (.look "u" (.noon 1)) trivial, .extra (.check "v" size 0 (.noon 2)) trivial,
    .extra (.check "u" size 0 (.noon 4)) trivial, .asked (.trade "u" size (.noon 5)),
    .asked (.check "u" size 0 (.noon 5)), .asked (.look "u" (.noon 5))]

/-- The detour over a day and the end of a week does not change the two answers of the run. -/
theorem reads_unobservable_detour :
    (∃ answers last, (new Settings.standard).follow? detour = some (answers, last) ∧
      answers.length = 2) ∧
    ((new Settings.standard).follow? detour).map (·.1) =
      ((new Settings.standard).follow? (Turn.original detour)).map (·.1) ∧
    ((new Settings.standard).follow? detour).map (·.2.state? "u" (.noon 6)) =
      ((new Settings.standard).follow? (Turn.original detour)).map
        (·.2.state? "u" (.noon 6)) := by
  have ran : ((new Settings.standard).follow? detour).any (·.1.length = 2) := by decide +kernel
  obtain ⟨⟨answers, last⟩, ran, two⟩ := (Option.any_eq_true _ _).1 ran
  have replies := replies_of_follow? (Option.isSome_iff_exists.2 ⟨_, ran⟩)
  obtain ⟨same, later⟩ := reads_unobservable rfl (by decide +kernel) replies
  exact ⟨⟨answers, last, ran, of_decide_eq_true two⟩, same,
    later "u" (.noon 6) (by decide +kernel)⟩

end Manager

end TradingDesk.Risk
