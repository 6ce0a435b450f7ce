import TradingDesk.Proofs.Calendar.Week
import TradingDesk.Proofs.Risk.Latch
import TradingDesk.Proofs.Risk.Step

/-!
# Entries of a Day

The counter of a day is set to zero by the first operation on a user that sees another day, whichever
operation that is and however many days later it comes.  The counter is therefore read together with
its day: on a day other than that of the state a user has made no entries yet.

While days do not go back, this reading counts the entries of the latest day.  An entry that directly
follows a check which allowed it stays within the limit of the check, so the entries of every day do.
-/

namespace TradingDesk.Risk

/-! ## The counter of a state and its day -/

namespace State

variable {s s' : State} {now : Instant}

/-- The entries on a day, as far as a state knows. -/
def tradesOn (s : State) (day : Date) : Nat :=
  if s.lastResetDate = day then s.dailyTrades else 0

theorem tradesOn_new (user : String) (balance : Decimal) (now : Instant) (day : Date) :
    (new user balance now).tradesOn day = 0 :=
  ite_self 0

theorem tradesOn_of_eq (date : s'.lastResetDate = s.lastResetDate)
    (trades : s'.dailyTrades = s.dailyTrades) (day : Date) :
    s'.tradesOn day = s.tradesOn day := by
  rw [tradesOn, date, trades, tradesOn]

theorem dailyTrades_rollOver (s : State) (now : Instant) :
    (s.rollOver now).dailyTrades = s.tradesOn now.date := by
  have week (t : State) (w : Date.Week) : (t.toWeek w).dailyTrades = t.dailyTrades := by
    unfold toWeek
    split <;> rfl
  rw [rollOver, week, toDay, tradesOn]
  by_cases today : now.date = s.lastResetDate
  · rw [if_pos today, if_pos today.symm]
  · rw [if_neg today, if_neg (Ne.symm today)]
    rfl

theorem tradesOn_rollOver (s : State) (now : Instant) (day : Date) :
    (s.rollOver now).tradesOn day = if now.date = day then s.tradesOn day else 0 := by
  rw [tradesOn, lastResetDate_rollOver, dailyTrades_rollOver]
  by_cases today : now.date = day
  · rw [if_pos today, if_pos today, today]
  · rw [if_neg today, if_neg today]

theorem tradesOn_recordEntry? (h : s.recordEntry? now = some s') (day : Date) :
    s'.tradesOn day = if now.date = day then s.tradesOn day + 1 else 0 := by
  rw [recordEntry?_eq_some h, tradesOn]
  dsimp only
  rw [lastResetDate_rollOver, dailyTrades_rollOver]
  by_cases today : now.date = day
  · rw [if_pos today, if_pos today, today]
  · rw [if_neg today, if_neg today]

theorem tradesOn_measured (h : Measured s s' now) (day : Date) :
    s'.tradesOn day = s.tradesOn day := by
  apply tradesOn_of_eq <;> rw [h.eq]

theorem tradesOn_recordTrade? {profit limit : Decimal}
    (h : s.recordTrade? profit limit now = some s') (day : Date) :
    s'.tradesOn day = if now.date = day then s.tradesOn day else 0 := by
  obtain ⟨balance, daily, weekly, losses, -, measured⟩ := recordTrade?_eq_some h
  rw [tradesOn_measured measured, ← tradesOn_rollOver]
  rfl

theorem tradesOn_setBalance? {balance limit : Decimal}
    (h : s.setBalance? balance limit now = some s') (day : Date) :
    s'.tradesOn day = if now.date = day then s.tradesOn day else 0 := by
  obtain ⟨dayStart, weekStart, measured⟩ := setBalance?_eq_some h
  rw [tradesOn_measured measured, ← tradesOn_rollOver]
  rfl

/-- An entry is allowed only below the limit of the day. -/
theorem dailyTrades_lt_of_allowed {limits : Settings} {size : Decimal} {openPositions : Nat}
    (h : denial? s limits size openPositions = some none) :
    s.dailyTrades < limits.maxDailyTrades := by
  unfold denial? at h
  split at h
  · cases h
  · split at h
    · cases h
    · split at h
      · cases h
      · rename_i below
        exact Nat.lt_of_not_le below

end State

/-! ## Requests to a manager -/

/-- A call of a manager, or a reset or trip of a breaker by hand. -/
inductive Request where
  | call (c : Call)
  | reset (user : String)
  | trip (user reason : String) (now : Instant)

namespace Request

/-- The user of a request. -/
def user : Request → String
  | call c => c.user
  | reset user | trip user _ _ => user

/-- The time at which a request rolls a state over. -/
def time? : Request → Option Instant
  | call c => c.time?
  | reset _ | trip _ _ _ => none

/-- The day of a request. -/
def date? (r : Request) : Option Date :=
  r.time?.map Instant.date

/-- Whether a request is an entry of a user. -/
def IsEntryOf (user : String) : Request → Prop
  | call (.entry other _) => other = user
  | _ => False

/-- Whether a request is an entry of a user on a day. -/
def isEntryOn (user : String) (day : Date) : Request → Bool
  | call (.entry other now) => other == user && now.date == day
  | _ => false

/-- The number of entries of a user on a day. -/
def entriesOn (user : String) (day : Date) (requests : List Request) : Nat :=
  requests.countP (isEntryOn user day)

/-- Whether the days of requests never go back. -/
def InOrder (requests : List Request) : Prop :=
  (requests.filterMap date?).Pairwise (· ≤ ·)

variable {user : String} {day : Date} {requests : List Request} {r : Request}

theorem inOrder_of_times (ordered : (requests.filterMap time?).Pairwise (· ≤ ·)) :
    InOrder requests := by
  have dates : requests.filterMap date? = (requests.filterMap time?).map Instant.date :=
    List.map_filterMap.symm
  rw [InOrder, dates]
  exact ordered.map Instant.date fun _ _ le ↦ Instant.date_mono le

/-- The last of requests in order is on the latest day. -/
theorem InOrder.of_append (ordered : InOrder (requests ++ [r])) :
    InOrder requests ∧ ∀ d, r.date? = some d → ∀ e ∈ requests.filterMap date?, e ≤ d := by
  rw [InOrder, List.filterMap_append] at ordered
  obtain ⟨before, -, between⟩ := List.pairwise_append.1 ordered
  refine ⟨before, ?_⟩
  intro d dated e mem
  apply between e mem d
  exact List.mem_filterMap.2 ⟨r, List.mem_singleton_self r, dated⟩

/-- The days of requests are those before the last one and the day of the last one. -/
theorem upTo_of_append (upTo : ∀ d ∈ (requests ++ [r]).filterMap date?, d ≤ day) :
    (∀ d ∈ requests.filterMap date?, d ≤ day) ∧ ∀ d, r.date? = some d → d ≤ day := by
  rw [List.filterMap_append] at upTo
  refine ⟨fun d mem ↦ upTo d (List.mem_append_left _ mem), ?_⟩
  intro d dated
  apply upTo d (List.mem_append_right _ _)
  exact List.mem_filterMap.2 ⟨r, List.mem_singleton_self r, dated⟩

theorem InOrder.of_isPrefix {before : List Request} (ordered : InOrder requests)
    (first : before <+: requests) : InOrder before := by
  obtain ⟨after, rfl⟩ := first
  rw [InOrder, List.filterMap_append] at ordered
  exact (List.pairwise_append.1 ordered).1

theorem isEntryOn_of_not_isEntryOf (noEntry : ¬r.IsEntryOf user) (day : Date) :
    r.isEntryOn user day = false := by
  cases r with
  | call c =>
    cases c with
    | entry other now =>
      have other' : (other == user) = false := beq_eq_false_iff_ne.2 noEntry
      rw [isEntryOn, other', Bool.false_and]
    | check | look | trade | balance | limits => rfl
  | reset | trip => rfl

theorem date?_of_isEntryOn (entry : r.isEntryOn user day) : r.date? = some day := by
  cases r with
  | call c =>
    cases c with
    | entry other now =>
      obtain ⟨-, today⟩ := (Bool.and_eq_true _ _).mp entry
      exact congrArg some (eq_of_beq today)
    | check | look | trade | balance | limits => cases entry
  | reset | trip => cases entry

/-- Requests of earlier days are no entries of a day. -/
theorem entriesOn_eq_zero {before : Date} (earlier : ∀ d ∈ requests.filterMap date?, d ≤ before)
    (le : before ≤ day) (ne : before ≠ day) : entriesOn user day requests = 0 := by
  apply List.countP_eq_zero.2
  intro r mem entry
  have dated : day ∈ requests.filterMap date? :=
    List.mem_filterMap.2 ⟨r, mem, date?_of_isEntryOn entry⟩
  exact ne (Date.le_antisymm le (earlier day dated))

theorem entriesOn_append (user : String) (day : Date) (requests more : List Request) :
    entriesOn user day (requests ++ more) = entriesOn user day requests + entriesOn user day more :=
  List.countP_append

theorem entriesOn_of_not_isEntryOf (noEntry : ¬r.IsEntryOf user) (day : Date) :
    entriesOn user day [r] = 0 := by
  simp [entriesOn, isEntryOn_of_not_isEntryOf noEntry day]

theorem entriesOn_entry (user : String) (now : Instant) (day : Date) :
    entriesOn user day [.call (.entry user now)] = if now.date = day then 1 else 0 := by
  simp [entriesOn, List.countP_cons, isEntryOn]

end Request

namespace Manager

open Request (entriesOn)

variable {m m' m'' : Manager} {user : String} {requests : List Request} {r : Request} {day : Date}

/-- The manager after a request. -/
def serve? (m : Manager) : Request → Option Manager
  | .call c => m.perform? c
  | .reset user => some (m.reset user).1
  | .trip user reason now => some (m.trip user reason now)

/-- The manager after requests one after another. -/
def serveAll? (m : Manager) (requests : List Request) : Option Manager :=
  requests.foldlM serve? m

/-- Requests in which every entry of a user directly follows a check of the user at the same time
that allowed a position. -/
inductive Admits (m : Manager) (user : String) : List Request → Prop
  | start : Admits m user []
  | other {requests : List Request} {r : Request} (before : Admits m user requests)
      (noEntry : ¬r.IsEntryOf user) : Admits m user (requests ++ [r])
  | entry {requests : List Request} {m' : Manager} {size : Decimal} {openPositions : Nat}
      {now : Instant}
      (before : Admits m user (requests ++ [.call (.check user size openPositions now)]))
      (run : m.serveAll? requests = some m')
      (allowed : m'.check? user size openPositions now = some none) :
      Admits m user
        (requests ++ [.call (.check user size openPositions now)] ++ [.call (.entry user now)])

theorem serveAll?_append (m : Manager) (requests more : List Request) :
    m.serveAll? (requests ++ more) = (m.serveAll? requests).bind (·.serveAll? more) := by
  rw [serveAll?, List.foldlM_append]
  rfl

/-! ## What a request counts -/

/-- The entries of a user on a day, as far as a manager knows. -/
def tradesOn (m : Manager) (user : String) (day : Date) : Nat :=
  (m.stored? user).elim 0 (·.tradesOn day)

theorem tradesOn_file_self (m : Manager) (user : String) (s : State) (day : Date) :
    (m.file user s).tradesOn user day = s.tradesOn day := by
  rw [tradesOn, stored?_file_self]
  rfl

theorem tradesOn_of_stored? (same : m'.stored? user = m.stored? user) (day : Date) :
    m'.tradesOn user day = m.tradesOn user day := by
  rw [tradesOn, same, tradesOn]

theorem tradesOn_touch (m : Manager) (user : String) (now : Instant) (day : Date) :
    (m.touch user now).tradesOn user day = if now.date = day then m.tradesOn user day else 0 := by
  unfold touch
  split
  · rename_i unknown
    rw [tradesOn, unknown]
    exact (ite_self 0).symm
  · rename_i s known
    rw [tradesOn_file_self, State.tradesOn_rollOver, tradesOn, known]
    rfl

/-- A call of a user at a time other than an entry counts nothing. -/
theorem tradesOn_perform? {c : Call} {now : Instant} (own : c.user = user)
    (timed : c.time? = some now) (noEntry : ¬(Request.call c).IsEntryOf user)
    (h : m.perform? c = some m') (day : Date) :
    m'.tradesOn user day = if now.date = day then m.tradesOn user day else 0 := by
  cases c with
  | check other size openPositions now =>
    cases timed
    obtain rfl : other = user := own
    obtain ⟨answer, -, rfl⟩ := Option.map_eq_some_iff.1 h
    exact tradesOn_touch m other _ day
  | look other now =>
    cases timed
    obtain rfl : other = user := own
    cases h
    exact tradesOn_touch m other _ day
  | entry other now => exact absurd own noEntry
  | trade other profit now =>
    cases timed
    obtain rfl : other = user := own
    rw [perform?_trade] at h
    obtain ⟨s', recorded, rfl⟩ := Option.map_eq_some_iff.1 h
    rw [tradesOn_file_self, State.tradesOn_recordTrade? recorded, tradesOn]
    cases m.stored? other with
    | none =>
      rw [Option.getD_none, State.tradesOn_new]
      rfl
    | some s => rfl
  | balance other balance now =>
    cases timed
    obtain rfl : other = user := own
    cases known : m.stored? other with
    | none =>
      rw [perform?_balance_of_unknown known] at h
      cases h
      rw [tradesOn_file_self, State.tradesOn_new, tradesOn, known]
      exact (ite_self 0).symm
    | some s =>
      rw [perform?_balance known] at h
      obtain ⟨s', changed, rfl⟩ := Option.map_eq_some_iff.1 h
      rw [tradesOn_file_self, State.tradesOn_setBalance? changed, tradesOn, known]
      rfl
  | limits other settings => cases timed

theorem stored?_reset_of_ne {other : String} (h : other ≠ user) :
    (m.reset other).1.stored? user = m.stored? user := by
  unfold reset
  split
  · rfl
  · split
    · exact stored?_file_of_ne m (Ne.symm h) _
    · rfl

theorem stored?_trip_of_ne {other : String} (h : other ≠ user) (reason : String) (now : Instant) :
    (m.trip other reason now).stored? user = m.stored? user := by
  unfold trip
  split
  · rfl
  · exact stored?_file_of_ne m (Ne.symm h) _

/-- A request of another user, or one that has no time, counts nothing. -/
theorem tradesOn_serve? (free : r.user ≠ user ∨ r.time? = none) (h : m.serve? r = some m')
    (day : Date) : m'.tradesOn user day = m.tradesOn user day := by
  by_cases own : r.user = user
  case neg =>
    apply tradesOn_of_stored?
    cases r with
    | call c => exact stored?_perform?_of_ne own h
    | reset other =>
      cases h
      exact stored?_reset_of_ne own
    | trip other reason now =>
      cases h
      exact stored?_trip_of_ne own reason now
  case pos =>
    have untimed := free.resolve_left (not_not_intro own)
    cases r with
    | call c =>
      cases c with
      | limits other settings =>
        cases h
        rfl
      | check | look | entry | trade | balance => cases untimed
    | reset other =>
      obtain rfl : other = user := own
      cases h
      unfold reset
      split
      · rfl
      · rename_i s known
        split
        · rw [tradesOn_file_self, tradesOn, known]
          rfl
        · rfl
    | trip other reason now =>
      obtain rfl : other = user := own
      cases h
      unfold trip
      split
      · rfl
      · rename_i s known
        rw [tradesOn_file_self, tradesOn, known]
        rfl

/-- An entry of a user with a state counts one. -/
theorem tradesOn_entry {s : State} {now : Instant} (known : m.stored? user = some s)
    (h : m.perform? (.entry user now) = some m') (day : Date) :
    m'.tradesOn user day = if now.date = day then m.tradesOn user day + 1 else 0 := by
  rw [perform?_entry known] at h
  obtain ⟨s', counted, rfl⟩ := Option.map_eq_some_iff.1 h
  rw [tradesOn_file_self, State.tradesOn_recordEntry? counted, tradesOn, known]
  rfl

/-- A check that allows a position knows the user, and the day is not full yet. -/
theorem tradesOn_lt_of_allowed {size : Decimal} {openPositions : Nat} {now : Instant}
    (allowed : m.check? user size openPositions now = some none) :
    ∃ s, m.stored? user = some s ∧
      m.tradesOn user now.date < (m.settingsOf user).maxDailyTrades := by
  unfold check? state? at allowed
  unfold tradesOn
  cases known : m.stored? user with
  | none =>
    rw [known] at allowed
    cases allowed
  | some s =>
    rw [known] at allowed
    have below := State.dailyTrades_lt_of_allowed allowed
    rw [State.dailyTrades_rollOver] at below
    exact ⟨s, rfl, below⟩

/-- A check that allowed a position only touches the user, so that the day is not full afterwards. -/
theorem tradesOn_lt_of_checked {size : Decimal} {openPositions : Nat} {now : Instant}
    (allowed : m.check? user size openPositions now = some none)
    (h : m.serve? (.call (.check user size openPositions now)) = some m') :
    (∃ s, m'.stored? user = some s) ∧
      m'.tradesOn user now.date < (m.settingsOf user).maxDailyTrades := by
  obtain ⟨s, known, below⟩ := tradesOn_lt_of_allowed allowed
  rw [serve?, perform?, allowed] at h
  cases h
  rw [tradesOn_touch, if_pos rfl, touch_of_stored known]
  exact ⟨⟨_, stored?_file_self m user _⟩, below⟩

/-! ## What requests count -/

/-- Whether the entries read on a day grew by those among requests.  What was read before may be
lost, since the day of a state can be later at first. -/
def Counts (m m' : Manager) (user : String) (day : Date) (requests : List Request) : Prop :=
  ∃ base, (m.tradesOn user day = 0 → base = 0) ∧
    m'.tradesOn user day = base + entriesOn user day requests

theorem counts_nil (m : Manager) (user : String) (day : Date) : m.Counts m user day [] :=
  ⟨m.tradesOn user day, id, rfl⟩

/-- On an earlier day than the request that sets a reading to zero there were no entries. -/
theorem counts_of_zero {now : Instant}
    (earlier : ∀ d ∈ requests.filterMap Request.date?, d ≤ now.date) (le : now.date ≤ day)
    (ne : now.date ≠ day) (zero : m'.tradesOn user day = 0) : m.Counts m' user day requests := by
  refine ⟨0, fun _ ↦ rfl, ?_⟩
  rw [zero, Request.entriesOn_eq_zero earlier le ne]

theorem Counts.other (counts : m.Counts m' user day requests)
    (earlier : ∀ d, r.date? = some d → ∀ e ∈ requests.filterMap Request.date?, e ≤ d)
    (upTo : ∀ d, r.date? = some d → d ≤ day) (noEntry : ¬r.IsEntryOf user)
    (h : m'.serve? r = some m'') : m.Counts m'' user day (requests ++ [r]) := by
  have none : entriesOn user day (requests ++ [r]) = entriesOn user day requests := by
    rw [Request.entriesOn_append, Request.entriesOn_of_not_isEntryOf noEntry, Nat.add_zero]
  unfold Counts
  rw [none]
  by_cases free : r.user ≠ user ∨ r.time? = Option.none
  · rw [tradesOn_serve? free h]
    exact counts
  · rw [not_or, not_not] at free
    obtain ⟨now, timed⟩ := Option.ne_none_iff_exists'.1 free.2
    have dated : r.date? = some now.date := by rw [Request.date?, timed, Option.map_some]
    have read : m''.tradesOn user day =
        if now.date = day then m'.tradesOn user day else 0 := by
      cases r with
      | call c => exact tradesOn_perform? free.1 timed noEntry h day
      | reset | trip => cases timed
    by_cases today : now.date = day
    · rw [read, if_pos today]
      exact counts
    · rw [if_neg today] at read
      exact counts_of_zero (earlier _ dated) (upTo _ dated) today read

theorem Counts.entry {s : State} {now : Instant} (counts : m.Counts m' user day requests)
    (earlier : ∀ e ∈ requests.filterMap Request.date?, e ≤ now.date) (upTo : now.date ≤ day)
    (known : m'.stored? user = some s) (h : m'.perform? (.entry user now) = some m'') :
    m.Counts m'' user day (requests ++ [.call (.entry user now)]) := by
  have read := tradesOn_entry known h day
  unfold Counts
  rw [Request.entriesOn_append, Request.entriesOn_entry]
  by_cases today : now.date = day
  · rw [read, if_pos today, if_pos today]
    obtain ⟨base, fresh, read⟩ := counts
    refine ⟨base, fresh, ?_⟩
    rw [read, Nat.add_assoc]
  · rw [if_neg today] at read
    rw [if_neg today, Nat.add_zero]
    exact counts_of_zero earlier upTo today read

theorem serveAll?_concat (run : m.serveAll? (requests ++ [r]) = some m'') :
    ∃ m', m.serveAll? requests = some m' ∧ m'.serve? r = some m'' := by
  rw [serveAll?_append] at run
  obtain ⟨m', first, last⟩ := Option.bind_eq_some_iff.1 run
  obtain ⟨after, served, last⟩ := Option.bind_eq_some_iff.1 last
  cases last
  exact ⟨m', first, served⟩

/-- While days do not go back, the entries of the latest day are counted. -/
theorem Admits.counts (admits : m.Admits user requests) (run : m.serveAll? requests = some m')
    (ordered : Request.InOrder requests)
    (upTo : ∀ d ∈ requests.filterMap Request.date?, d ≤ day) : m.Counts m' user day requests := by
  induction admits generalizing m' with
  | start =>
    cases run
    exact counts_nil m user day
  | @other requests r before noEntry ih =>
    obtain ⟨between, first, served⟩ := serveAll?_concat run
    obtain ⟨ordered, earlier⟩ := ordered.of_append
    obtain ⟨upTo, last⟩ := Request.upTo_of_append upTo
    exact (ih first ordered upTo).other earlier last noEntry served
  | @entry requests between size openPositions now before first allowed ih =>
    obtain ⟨checked, run, entered⟩ := serveAll?_concat run
    obtain ⟨between', first', touched⟩ := serveAll?_concat run
    rw [first] at first'
    cases first'
    obtain ⟨⟨s, known⟩, -⟩ := tradesOn_lt_of_checked allowed touched
    obtain ⟨ordered, earlier⟩ := ordered.of_append
    obtain ⟨upTo, last⟩ := Request.upTo_of_append upTo
    exact (ih run ordered upTo).entry (earlier _ rfl) (last _ rfl) known entered

/-! ## Limits -/

theorem settingsOf_touch (m : Manager) (user other : String) (now : Instant) :
    (m.touch user now).settingsOf other = m.settingsOf other := by
  unfold touch
  split <;> rfl

theorem settingsOf_perform? {c : Call} (fixed : ∀ settings, c ≠ .limits user settings)
    (h : m.perform? c = some m') : m'.settingsOf user = m.settingsOf user := by
  obtain (rfl | ⟨s, rfl⟩) | ⟨settings, given, rfl⟩ := perform?_files h
  · rfl
  · rfl
  · have ne : user ≠ c.user := by
      rintro rfl
      exact fixed settings given
    rw [settingsOf, setSettings, Table.find?_insert_of_ne ne, settingsOf]

theorem settingsOf_serve? (fixed : ∀ settings, r ≠ .call (.limits user settings))
    (h : m.serve? r = some m') : m'.settingsOf user = m.settingsOf user := by
  cases r with
  | call c => exact settingsOf_perform? (fun settings same ↦ fixed settings (same ▸ rfl)) h
  | reset other =>
    cases h
    unfold reset
    split
    · rfl
    · split <;> rfl
  | trip other reason now =>
    cases h
    unfold trip
    split <;> rfl

/-- Requests that give a user no other limits. -/
theorem settingsOf_serveAll? (fixed : ∀ settings, .call (.limits user settings) ∉ requests)
    (h : m.serveAll? requests = some m') : m'.settingsOf user = m.settingsOf user := by
  induction requests generalizing m with
  | nil =>
    cases h
    rfl
  | cons r requests ih =>
    obtain ⟨between, served, h⟩ := Option.bind_eq_some_iff.1 h
    rw [ih (fun settings mem ↦ fixed settings (List.mem_cons_of_mem _ mem)) h]
    apply settingsOf_serve? _ served
    rintro settings rfl
    exact fixed settings List.mem_cons_self

/-- Under limits that stay what they are, the entries of every day are within their limit. -/
theorem Admits.entriesOn_le (admits : m.Admits user requests)
    (run : m.serveAll? requests = some m') (ordered : Request.InOrder requests)
    (fixed : ∀ settings, .call (.limits user settings) ∉ requests) (day : Date) :
    entriesOn user day requests ≤ (m.settingsOf user).maxDailyTrades := by
  induction admits generalizing m' with
  | start => exact Nat.zero_le _
  | @other requests r before noEntry ih =>
    obtain ⟨between, first, -⟩ := serveAll?_concat run
    rw [Request.entriesOn_append, Request.entriesOn_of_not_isEntryOf noEntry, Nat.add_zero]
    apply ih first ordered.of_append.1
    intro settings mem
    exact fixed settings (List.mem_append_left _ mem)
  | @entry requests between size openPositions now before first allowed ih =>
    obtain ⟨checked, run, entered⟩ := serveAll?_concat run
    obtain ⟨between', first', touched⟩ := serveAll?_concat run
    rw [first] at first'
    cases first'
    have fixed' (settings : Settings) :
        .call (.limits user settings) ∉ requests ++ [.call (.check user size openPositions now)] :=
      fun mem ↦ fixed settings (List.mem_append_left _ mem)
    obtain ⟨ordered, earlier⟩ := ordered.of_append
    rw [Request.entriesOn_append, Request.entriesOn_entry]
    by_cases today : now.date = day
    · subst today
      obtain ⟨base, -, read⟩ := before.counts run ordered (earlier _ rfl)
      obtain ⟨-, below⟩ := tradesOn_lt_of_checked allowed touched
      rw [settingsOf_serveAll? (fun settings mem ↦ fixed' settings (List.mem_append_left _ mem))
        first, read] at below
      rw [if_pos rfl]
      omega
    · rw [if_neg today, Nat.add_zero]
      exact ih run ordered fixed'

theorem tradesOn_of_no_states (empty : m.states = []) (user : String) (day : Date) :
    m.tradesOn user day = 0 := by
  rw [tradesOn, stored?, empty]
  rfl

theorem dailyTrades_of_state? {s : State} {now : Instant} (h : m.state? user now = some s) :
    s.dailyTrades = m.tradesOn user now.date := by
  obtain ⟨stored, known, rfl⟩ := Option.map_eq_some_iff.1 h
  rw [State.dailyTrades_rollOver, tradesOn, known]
  rfl

/-- What comes first among admitted requests is admitted. -/
theorem Admits.of_isPrefix {before : List Request} (admits : m.Admits user requests)
    (first : before <+: requests) : m.Admits user before := by
  induction admits with
  | start =>
    rw [List.prefix_nil.1 first]
    exact start
  | other admitted noEntry ih =>
    obtain rfl | first := List.prefix_concat_iff.1 first
    · exact admitted.other noEntry
    · exact ih first
  | entry admitted run allowed ih =>
    obtain rfl | first := List.prefix_concat_iff.1 first
    · exact admitted.entry run allowed
    · exact ih first

/-- Admitted requests after admitted requests are admitted. -/
theorem Admits.append {later : List Request} (admits : m.Admits user requests)
    (run : m.serveAll? requests = some m') (more : m'.Admits user later) :
    m.Admits user (requests ++ later) := by
  induction more with
  | start =>
    rw [List.append_nil]
    exact admits
  | other before noEntry ih =>
    rw [← List.append_assoc]
    exact ih.other noEntry
  | entry before ran allowed ih =>
    rw [← List.append_assoc, ← List.append_assoc]
    rw [← List.append_assoc] at ih
    apply ih.entry _ allowed
    rw [serveAll?_append, run]
    exact ran

/-- While times do not go back, the entries of a user on a day stay within the limit of the day, and
every look at the user shows the number of them so far. -/
theorem entries_counted_and_capped (empty : m.states = []) (admits : m.Admits user requests)
    (run : m.serveAll? requests = some m')
    (ordered : (requests.filterMap Request.time?).Pairwise (· ≤ ·))
    (fixed : ∀ settings, .call (.limits user settings) ∉ requests) :
    (∀ day, entriesOn user day requests ≤ (m.settingsOf user).maxDailyTrades) ∧
      ∀ before now after, requests = before ++ .call (.look user now) :: after →
        ∃ between, m.serveAll? before = some between ∧
          ∀ s, between.state? user now = some s →
            s.dailyTrades = entriesOn user now.date before := by
  have days := Request.inOrder_of_times ordered
  refine ⟨admits.entriesOn_le run days fixed, ?_⟩
  rintro before now after rfl
  rw [serveAll?_append] at run
  obtain ⟨between, first, -⟩ := Option.bind_eq_some_iff.1 run
  refine ⟨between, first, ?_⟩
  intro s looked
  rw [List.append_cons] at days
  obtain ⟨days, earlier⟩ := days.of_isPrefix (List.prefix_append _ _) |>.of_append
  have admitted := admits.of_isPrefix (List.prefix_append _ _)
  obtain ⟨base, fresh, read⟩ := admitted.counts first days (earlier _ rfl)
  rw [dailyTrades_of_state? looked, read, fresh (tradesOn_of_no_states empty user _), Nat.zero_add]

/-- A check and an entry of the user of the runs below. -/
def entryAt (now : Instant) : List Request :=
  [.call (.check "u" (Decimal.const 100 0) 0 now), .call (.entry "u" now)]

theorem Admits.entryAt {now : Instant} (before : m.Admits "u" requests)
    (allowed : (m.serveAll? requests).any
      (·.check? "u" (Decimal.const 100 0) 0 now = some none)) :
    m.Admits "u" (requests ++ Manager.entryAt now) := by
  obtain ⟨m', run, allowed⟩ := (Option.any_eq_true _ _).1 allowed
  rw [Manager.entryAt, List.append_cons]
  exact (before.other id).entry run (of_decide_eq_true allowed)

/-- A manager that allows two entries a day. -/
def twoADay : Manager :=
  Manager.new { Settings.standard with maxDailyTrades := 2 }

/-- A full day, a loss two days later, and an entry on the day after that. -/
def quietDays : List Request :=
  [.call (.balance "u" (Decimal.const 10000 0) (.noon 0))] ++ entryAt (.noon 0) ++ entryAt (.noon 0) ++
    [.call (.trade "u" (Decimal.const 100 0).neg (.noon 2))] ++ entryAt (.noon 3) ++
    [.call (.look "u" (.noon 3))]

theorem admits_quietDays : twoADay.Admits "u" quietDays := by
  apply Admits.other _ id
  apply Admits.entryAt _ (by decide +kernel)
  apply Admits.other _ id
  apply Admits.entryAt _ (by decide +kernel)
  apply Admits.entryAt _ (by decide +kernel)
  exact Admits.start.other id

/-- The look on the last day shows its one entry, not the two of the full day. -/
theorem entries_counted_and_capped_quietDays :
    (∀ day, entriesOn "u" day quietDays ≤ 2) ∧
      ∃ m' s, twoADay.serveAll? (quietDays.take 8) = some m' ∧
        m'.state? "u" (.noon 3) = some s ∧ s.dailyTrades = 1 := by
  have ran : (twoADay.serveAll? quietDays).isSome := by decide +kernel
  obtain ⟨m', run⟩ := Option.isSome_iff_exists.1 ran
  have fixed (settings : Settings) : .call (.limits "u" settings) ∉ quietDays := by
    simp [quietDays, entryAt]
  obtain ⟨capped, counted⟩ :=
    entries_counted_and_capped rfl admits_quietDays run (by decide +kernel) fixed
  obtain ⟨between, first, shows⟩ := counted (quietDays.take 8) (.noon 3) [] rfl
  have known : ((twoADay.serveAll? (quietDays.take 8)).bind (·.state? "u" (.noon 3))).isSome := by
    decide +kernel
  obtain ⟨s, known⟩ := Option.isSome_iff_exists.1 known
  rw [first] at known
  refine ⟨capped, between, s, first, known, ?_⟩
  rw [shows s known]
  decide

end Manager

end TradingDesk.Risk
