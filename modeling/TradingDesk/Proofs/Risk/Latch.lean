import Mathlib.Tactic.Common
import TradingDesk.Risk.Manager

/-!
# The Breaker Latches

Only the start of a day clears a breaker by itself.  Every call of the risk manager rolls the state
of its user over, but a time on the day of the state starts no day, and no other step of a call
touches a breaker that tripped.  A breaker therefore keeps its reason and its time until the day is
over, and it denies every entry with that reason, whatever results, balances and limits come in.

Booking a result and setting a balance end by comparing the losses of the day with their limit.
-/

namespace TradingDesk.Risk

/-! ## Changes of a state within its day -/

namespace State

variable {s s' s'' : State} {limit : Decimal} {now : Instant}

/-- A change of a state on one day that leaves a tripped breaker alone. -/
structure Latches (s s' : State) : Prop where
  day : s'.lastResetDate = s.lastResetDate
  breaker : s.breaker.tripped → s'.breaker = s.breaker

namespace Latches

theorem refl (s : State) : Latches s s := ⟨rfl, fun _ ↦ rfl⟩

theorem trans (h : Latches s s') (h' : Latches s' s'') : Latches s s'' where
  day := h'.day.trans h.day
  breaker tripped := by
    have kept := h.breaker tripped
    rw [← kept] at tripped
    rw [h'.breaker tripped, kept]

/-- Filling in fields other than the day and the breaker. -/
theorem of_eq (day : s'.lastResetDate = s.lastResetDate) (breaker : s'.breaker = s.breaker) :
    Latches s s' :=
  ⟨day, fun _ ↦ breaker⟩

end Latches

theorem breaker_toWeek (s : State) (week : Date.Week) : (s.toWeek week).breaker = s.breaker := by
  unfold toWeek
  split <;> rfl

/-- A time on the day of a state starts no day. -/
theorem latches_rollOver (today : now.date = s.lastResetDate) : Latches s (s.rollOver now) := by
  have sameDay : s.toDay now.date = s := by
    rw [toDay, if_pos today]
  apply Latches.of_eq
  · rw [lastResetDate_rollOver, today]
  · rw [rollOver, breaker_toWeek, sameDay]

theorem latches_withDrawdown? (h : s.withDrawdown? = some s') : Latches s s' := by
  obtain ⟨drawdown, -, h⟩ := Option.bind_eq_some_iff.1 h
  cases h
  exact Latches.of_eq rfl rfl

theorem latches_checkBreaker? (h : s.checkBreaker? limit now = some s') : Latches s s' := by
  unfold checkBreaker? at h
  split at h
  · cases h
    exact Latches.refl s
  · rename_i untripped
    refine ⟨?_, fun tripped ↦ absurd tripped untripped⟩
    obtain ⟨ratio, -, h⟩ := Option.bind_eq_some_iff.1 h
    split at h
    · obtain ⟨reason, -, h⟩ := Option.bind_eq_some_iff.1 h
      cases h
      rfl
    · cases h
      rfl

/-- After the check, losses at their limit mean that the breaker is on. -/
theorem tripped_of_checkBreaker? {ratio : Decimal} (h : s.checkBreaker? limit now = some s')
    (measured : s'.dailyLossRatio? = some ratio) (reached : limit ≤ ratio) :
    s'.breaker.tripped := by
  unfold checkBreaker? at h
  split at h
  · rename_i tripped
    cases h
    exact tripped
  · obtain ⟨before, found, h⟩ := Option.bind_eq_some_iff.1 h
    split at h
    · obtain ⟨reason, -, h⟩ := Option.bind_eq_some_iff.1 h
      cases h
      rfl
    · rename_i below
      cases h
      have same : before = ratio := Option.some.inj (found.symm.trans measured)
      rw [same] at below
      exact absurd reached below

theorem latches_recordEntry? (today : now.date = s.lastResetDate)
    (h : s.recordEntry? now = some s') : Latches s s' := by
  obtain ⟨daily, -, h⟩ := Option.bind_eq_some_iff.1 h
  obtain ⟨weekly, -, h⟩ := Option.bind_eq_some_iff.1 h
  obtain ⟨total, -, h⟩ := Option.bind_eq_some_iff.1 h
  cases h
  apply (latches_rollOver today).trans
  exact Latches.of_eq rfl rfl

/-- Booking a result ends with a check of the breaker. -/
theorem checkBreaker?_of_recordTrade? {profit : Decimal}
    (h : s.recordTrade? profit limit now = some s') :
    ∃ before, Latches (s.rollOver now) before ∧ before.checkBreaker? limit now = some s' := by
  obtain ⟨balance, -, h⟩ := Option.bind_eq_some_iff.1 h
  obtain ⟨daily, -, h⟩ := Option.bind_eq_some_iff.1 h
  obtain ⟨weekly, -, h⟩ := Option.bind_eq_some_iff.1 h
  obtain ⟨losses, -, h⟩ := Option.bind_eq_some_iff.1 h
  obtain ⟨before, fallen, h⟩ := Option.bind_eq_some_iff.1 h
  have led := latches_withDrawdown? fallen
  exact ⟨before, ⟨led.day, led.breaker⟩, h⟩

/-- Setting a balance ends with a check of the breaker. -/
theorem checkBreaker?_of_setBalance? {balance : Decimal}
    (h : s.setBalance? balance limit now = some s') :
    ∃ before, Latches (s.rollOver now) before ∧ before.checkBreaker? limit now = some s' := by
  obtain ⟨before, fallen, h⟩ := Option.bind_eq_some_iff.1 h
  have led := latches_withDrawdown? fallen
  exact ⟨before, ⟨led.day, led.breaker⟩, h⟩

theorem latches_of_checked (today : now.date = s.lastResetDate)
    (h : ∃ before, Latches (s.rollOver now) before ∧ before.checkBreaker? limit now = some s') :
    Latches s s' := by
  obtain ⟨before, led, checked⟩ := h
  exact ((latches_rollOver today).trans led).trans (latches_checkBreaker? checked)

/-- A breaker that tripped denies every entry first. -/
theorem denial?_of_tripped (tripped : s.breaker.tripped) (limits : Settings) (size : Decimal)
    (openPositions : Nat) :
    denial? s limits size openPositions = some (some (.breaker s.breaker.reason)) := by
  rw [denial?, if_pos tripped]
  rfl

end State

/-! ## Calls of a manager -/

/-- A call of a manager that does not reset, trip or load breakers. -/
inductive Call where
  | check (user : String) (size : Decimal) (openPositions : Nat) (now : Instant)
  | look (user : String) (now : Instant)
  | entry (user : String) (now : Instant)
  | trade (user : String) (profit : Decimal) (now : Instant)
  | balance (user : String) (balance : Decimal) (now : Instant)
  | limits (user : String) (settings : Settings)

namespace Call

/-- The user of a call. -/
def user : Call → String
  | check user _ _ _ | look user _ | entry user _ | trade user _ _ | balance user _ _
  | limits user _ => user

/-- The time of a call that has one. -/
def time? : Call → Option Instant
  | check _ _ _ now | look _ now | entry _ now | trade _ _ now | balance _ _ now => some now
  | limits _ _ => none

/-- Whether a call of a user stays on a day; calls of other users are free. -/
def StaysOn (user : String) (day : Date) (c : Call) : Prop :=
  c.user = user → ∀ now ∈ c.time?, now.date = day

instance (user : String) (day : Date) (c : Call) : Decidable (c.StaysOn user day) :=
  inferInstanceAs (Decidable (_ → _))

/-- Whether a call books a result of a user or sets the user's balance. -/
def Measures (user : String) : Call → Prop
  | trade other _ _ | balance other _ _ => other = user
  | check _ _ _ _ | look _ _ | entry _ _ | limits _ _ => False

end Call

namespace Manager

variable {m m' m'' : Manager} {user : String} {s : State} {c : Call}

/-- The manager after a call. -/
def perform? (m : Manager) : Call → Option Manager
  | .check user size openPositions now =>
    (m.check? user size openPositions now).map fun _ ↦ m.touch user now
  | .look user now => some (m.touch user now)
  | .entry user now => m.recordEntry? user now
  | .trade user profit now => (m.recordTrade? user profit now).map (·.1)
  | .balance user balance now => m.setBalance? user balance now
  | .limits user settings => some (m.setSettings user settings)

/-- The manager after calls one after another. -/
def run? (m : Manager) (calls : List Call) : Option Manager :=
  calls.foldlM perform? m

theorem recordTrade?_cases {profit : Decimal} {now : Instant} {tripped : Bool}
    (h : m.recordTrade? user profit now = some (m', tripped)) :
    ∃ s', ((m.stored? user).getD (State.new user Decimal.zero now)).recordTrade? profit
        (m.settingsOf user).breakerLossShare now = some s' ∧ m' = m.file user s' := by
  obtain ⟨s', recorded, h⟩ := Option.bind_eq_some_iff.1 h
  cases h
  exact ⟨s', recorded, rfl⟩

theorem perform?_entry (known : m.stored? user = some s) (now : Instant) :
    m.perform? (.entry user now) = (s.recordEntry? now).map (m.file user) := by
  rw [perform?, recordEntry?, known]

theorem perform?_entry_of_unknown (unknown : m.stored? user = none) (now : Instant) :
    m.perform? (.entry user now) = some m := by
  rw [perform?, recordEntry?, unknown]

theorem perform?_trade (m : Manager) (user : String) (profit : Decimal) (now : Instant) :
    m.perform? (.trade user profit now) =
      (((m.stored? user).getD (State.new user Decimal.zero now)).recordTrade? profit
        (m.settingsOf user).breakerLossShare now).map (m.file user) := by
  rw [perform?, recordTrade?]
  cases ((m.stored? user).getD (State.new user Decimal.zero now)).recordTrade? profit
    (m.settingsOf user).breakerLossShare now <;> rfl

theorem perform?_balance (known : m.stored? user = some s) (balance : Decimal)
    (now : Instant) : m.perform? (.balance user balance now) =
      (s.setBalance? balance (m.settingsOf user).breakerLossShare now).map (m.file user) := by
  rw [perform?, setBalance?, known]

theorem perform?_balance_of_unknown (unknown : m.stored? user = none) (balance : Decimal)
    (now : Instant) : m.perform? (.balance user balance now) =
      (some (State.new user balance now)).map (m.file user) := by
  rw [perform?, setBalance?, unknown]
  rfl

theorem touch_of_stored (known : m.stored? user = some s) (now : Instant) :
    m.touch user now = m.file user (s.rollOver now) := by
  rw [touch, known]

/-- What a call does to the state of its own user on the day of the state. -/
theorem perform?_own (own : c.user = user) (known : m.stored? user = some s)
    (today : c.StaysOn user s.lastResetDate) (h : m.perform? c = some m') :
    ∃ s', m'.stored? user = some s' ∧ s.Latches s' := by
  have sameDay : ∀ now ∈ c.time?, now.date = s.lastResetDate := today own
  have touched (now : Instant) (timed : now ∈ c.time?) :
      ∃ s', (m.touch user now).stored? user = some s' ∧ s.Latches s' := by
    refine ⟨s.rollOver now, ?_, State.latches_rollOver (sameDay now timed)⟩
    rw [touch_of_stored known, stored?_file_self]
  cases c with
  | check other size openPositions now =>
    obtain rfl : other = user := own
    obtain ⟨answer, -, rfl⟩ := Option.map_eq_some_iff.1 h
    exact touched now rfl
  | look other now =>
    obtain rfl : other = user := own
    cases h
    exact touched now rfl
  | entry other now =>
    obtain rfl : other = user := own
    rw [perform?_entry known] at h
    obtain ⟨s', counted, rfl⟩ := Option.map_eq_some_iff.1 h
    exact ⟨s', stored?_file_self m other s', State.latches_recordEntry? (sameDay now rfl) counted⟩
  | trade other profit now =>
    obtain rfl : other = user := own
    rw [perform?_trade, known, Option.getD_some] at h
    obtain ⟨s', recorded, rfl⟩ := Option.map_eq_some_iff.1 h
    have checked := State.checkBreaker?_of_recordTrade? recorded
    exact ⟨s', stored?_file_self m other s', State.latches_of_checked (sameDay now rfl) checked⟩
  | balance other balance now =>
    obtain rfl : other = user := own
    rw [perform?_balance known] at h
    obtain ⟨s', changed, rfl⟩ := Option.map_eq_some_iff.1 h
    have checked := State.checkBreaker?_of_setBalance? changed
    exact ⟨s', stored?_file_self m other s', State.latches_of_checked (sameDay now rfl) checked⟩
  | limits other settings =>
    cases h
    exact ⟨s, known, State.Latches.refl s⟩

theorem touch_cases (m : Manager) (user : String) (now : Instant) :
    m.touch user now = m ∨ ∃ s, m.touch user now = m.file user s := by
  unfold touch
  split
  · exact .inl rfl
  · exact .inr ⟨_, rfl⟩

/-- A call leaves everything as it is, files a state of its user, or gives the user limits. -/
theorem perform?_files (h : m.perform? c = some m') :
    (m' = m ∨ ∃ s, m' = m.file c.user s) ∨
      ∃ settings, c = .limits c.user settings ∧ m' = m.setSettings c.user settings := by
  have filed {made : Option State} (h : made.map (m.file c.user) = some m') :
      (m' = m ∨ ∃ s, m' = m.file c.user s) ∨
        ∃ settings, c = .limits c.user settings ∧ m' = m.setSettings c.user settings := by
    obtain ⟨s, -, rfl⟩ := Option.map_eq_some_iff.1 h
    exact .inl (.inr ⟨s, rfl⟩)
  cases c with
  | check user size openPositions now =>
    obtain ⟨answer, -, rfl⟩ := Option.map_eq_some_iff.1 h
    exact .inl (touch_cases m user now)
  | look user now =>
    cases h
    exact .inl (touch_cases m user now)
  | entry user now =>
    cases known : m.stored? user with
    | none =>
      rw [perform?_entry_of_unknown known] at h
      cases h
      exact .inl (.inl rfl)
    | some s =>
      rw [perform?_entry known] at h
      exact filed h
  | trade user profit now =>
    rw [perform?_trade] at h
    exact filed h
  | balance user balance now =>
    cases known : m.stored? user with
    | none =>
      rw [perform?_balance_of_unknown known] at h
      exact filed h
    | some s =>
      rw [perform?_balance known] at h
      exact filed h
  | limits user settings =>
    cases h
    exact .inr ⟨settings, rfl, rfl⟩

/-- A call files no state of another user. -/
theorem stored?_perform?_of_ne (other : c.user ≠ user) (h : m.perform? c = some m') :
    m'.stored? user = m.stored? user := by
  obtain (rfl | ⟨s, rfl⟩) | ⟨settings, -, rfl⟩ := perform?_files h
  · rfl
  · exact stored?_file_of_ne m (Ne.symm other) s
  · rfl

theorem perform?_latches (known : m.stored? user = some s) (today : c.StaysOn user s.lastResetDate)
    (h : m.perform? c = some m') : ∃ s', m'.stored? user = some s' ∧ s.Latches s' := by
  by_cases own : c.user = user
  · subst own
    exact perform?_own rfl known today h
  · refine ⟨s, ?_, State.Latches.refl s⟩
    rw [stored?_perform?_of_ne own h, known]

/-- The state of a user only latches while the calls of the user stay on its day. -/
theorem run?_latches {calls : List Call} (known : m.stored? user = some s)
    (today : ∀ c ∈ calls, c.StaysOn user s.lastResetDate) (h : m.run? calls = some m') :
    ∃ s', m'.stored? user = some s' ∧ s.Latches s' := by
  induction calls generalizing m s with
  | nil =>
    cases h
    exact ⟨s, known, State.Latches.refl s⟩
  | cons c calls ih =>
    obtain ⟨between, performed, h⟩ := Option.bind_eq_some_iff.1 h
    obtain ⟨s', known', led⟩ := perform?_latches known (today c List.mem_cons_self) performed
    have today' : ∀ c ∈ calls, c.StaysOn user s'.lastResetDate := by
      intro c mem
      rw [led.day]
      exact today c (List.mem_cons_of_mem _ mem)
    obtain ⟨s'', known'', led'⟩ := ih known' today' h
    exact ⟨s'', known'', led.trans led'⟩

/-- A user with a state whose losses are measured and have reached their limit is halted. -/
theorem tripped_of_measured {ratio : Decimal} (known : m.stored? user = some s)
    (measures : c.Measures user) (h : m.perform? c = some m')
    {s' : State} (known' : m'.stored? user = some s') (measured : s'.dailyLossRatio? = some ratio)
    (reached : (m'.settingsOf user).breakerLossShare ≤ ratio) : s'.breaker.tripped := by
  cases c with
  | trade other profit now =>
    cases measures
    obtain ⟨⟨m', tripped⟩, booked, rfl⟩ := Option.map_eq_some_iff.1 h
    obtain ⟨after, recorded, rfl⟩ := recordTrade?_cases booked
    obtain ⟨before, -, checked⟩ := State.checkBreaker?_of_recordTrade? recorded
    rw [stored?_file_self] at known'
    cases known'
    exact State.tripped_of_checkBreaker? checked measured reached
  | balance other balance now =>
    cases measures
    rw [perform?, setBalance?, known] at h
    obtain ⟨after, changed, rfl⟩ := Option.map_eq_some_iff.1 h
    obtain ⟨before, -, checked⟩ := State.checkBreaker?_of_setBalance? changed
    rw [stored?_file_self] at known'
    cases known'
    exact State.tripped_of_checkBreaker? checked measured reached
  | check | look | entry | limits => exact measures.elim

theorem check?_of_tripped {now : Instant} (known : m.stored? user = some s)
    (today : now.date = s.lastResetDate) (tripped : s.breaker.tripped) (size : Decimal)
    (openPositions : Nat) :
    m.check? user size openPositions now = some (some (.breaker s.breaker.reason)) := by
  have kept := (State.latches_rollOver today).breaker tripped
  have still : (s.rollOver now).breaker.tripped := by
    rw [kept]
    exact tripped
  rw [check?, state?, known]
  simp only [Option.map_some]
  rw [State.denial?_of_tripped still, kept]

/-! ## The law -/

/-- While the calls of a user stay on the day of the user's state, a breaker that is on stays on
with its reason and its time and denies every entry, and whenever a result was booked or a balance
set and the losses of the day have reached their limit, the breaker is on. -/
theorem breaker_latches {calls later : List Call} (known : m.stored? user = some s)
    (today : ∀ c ∈ calls ++ later, c.StaysOn user s.lastResetDate)
    (run : m.run? calls = some m') (run' : m'.run? later = some m'') :
    ∃ s' s'', m'.stored? user = some s' ∧ m''.stored? user = some s'' ∧
      s''.lastResetDate = s.lastResetDate ∧
      (s'.breaker.tripped → s''.breaker = s'.breaker ∧
        ∀ size openPositions now, now.date = s.lastResetDate →
          m''.check? user size openPositions now =
            some (some (.breaker s'.breaker.reason))) ∧
      ∀ c ratio, later.getLast? = some c → c.Measures user → s''.dailyLossRatio? = some ratio →
        (m''.settingsOf user).breakerLossShare ≤ ratio → s''.breaker.tripped := by
  have todayFirst : ∀ c ∈ calls, c.StaysOn user s.lastResetDate := by
    intro c mem
    exact today c (List.mem_append_left later mem)
  obtain ⟨s', known', led⟩ := run?_latches known todayFirst run
  have todayLater : ∀ c ∈ later, c.StaysOn user s'.lastResetDate := by
    intro c mem
    rw [led.day]
    exact today c (List.mem_append_right calls mem)
  obtain ⟨s'', known'', led'⟩ := run?_latches known' todayLater run'
  have day : s''.lastResetDate = s.lastResetDate := led'.day.trans led.day
  refine ⟨s', s'', known', known'', day, ?latched, ?measured⟩
  case latched =>
    intro tripped
    have kept := led'.breaker tripped
    refine ⟨kept, ?_⟩
    intro size openPositions now sameDay
    rw [← kept]
    apply check?_of_tripped known'' (sameDay.trans day.symm)
    rw [kept]
    exact tripped
  case measured =>
    intro c ratio last measures measured reached
    obtain ⟨before, rfl⟩ := List.getLast?_eq_some_iff.1 last
    rw [run?, List.foldlM_append] at run'
    obtain ⟨between, first, performed⟩ := Option.bind_eq_some_iff.1 run'
    obtain ⟨last, performed, ended⟩ := Option.bind_eq_some_iff.1 performed
    cases ended
    have todayBefore : ∀ c ∈ before, c.StaysOn user s'.lastResetDate := by
      intro c mem
      exact todayLater c (List.mem_append_left [_] mem)
    obtain ⟨t, knownBetween, -⟩ := run?_latches known' todayBefore first
    exact tripped_of_measured knownBetween measures performed known'' measured reached

/-- A user with a balance of 10000 and the usual limits. -/
def funded : Manager :=
  (Manager.new Settings.standard).file "u" (State.new "u" (Decimal.const 10000 0) Instant.epoch)

/-- A loss of 300, the usual limit of a day. -/
def lossOf300 : List Call :=
  [.trade "u" (Decimal.const 300 0).neg Instant.epoch]

/-- A gain, a larger balance and a wider limit later on the day. -/
def recovery : List Call :=
  let later := Instant.epoch.addSeconds 3600
  [.limits "u" { Settings.standard with breakerLossShare := Decimal.const 50 2 },
    .trade "u" (Decimal.const 1000 0) later, .balance "u" (Decimal.const 90000 0) later]

/-- Neither gains nor wider limits let the user trade again on the day of the loss. -/
theorem breaker_latches_recovery : ∃ m' m'' s' s'',
    funded.run? lossOf300 = some m' ∧ m'.run? recovery = some m'' ∧
      m'.stored? "u" = some s' ∧ m''.stored? "u" = some s'' ∧ s'.breaker.tripped ∧
      s''.breaker = s'.breaker ∧
      m''.check? "u" (Decimal.const 100 0) 0 (Instant.epoch.addSeconds 7200) =
        some (some (.breaker s'.breaker.reason)) := by
  have ran : (funded.run? lossOf300).any (fun m' ↦
      (m'.stored? "u").any (·.breaker.tripped) && (m'.run? recovery).isSome) := by
    decide +kernel
  obtain ⟨m', run, ran⟩ := (Option.any_eq_true _ _).1 ran
  obtain ⟨halted, went⟩ := (Bool.and_eq_true _ _).mp ran
  obtain ⟨m'', run'⟩ := Option.isSome_iff_exists.1 went
  obtain ⟨t, known, tripped⟩ := (Option.any_eq_true _ _).1 halted
  have today : ∀ c ∈ lossOf300 ++ recovery, c.StaysOn "u" Instant.epoch.date := by
    decide +kernel
  obtain ⟨s', s'', known', known'', -, latched, -⟩ :=
    breaker_latches (stored?_file_self _ _ _) today run run'
  have same : t = s' := Option.some.inj (known.symm.trans known')
  rw [same] at tripped
  obtain ⟨kept, denied⟩ := latched tripped
  exact ⟨m', m'', s', s'', run, run', known', known'', tripped, kept, denied _ _ _ (by decide)⟩

end Manager

end TradingDesk.Risk
