import TradingDesk.Proofs.Risk.Rollover
import TradingDesk.Proofs.Risk.Trips
import TradingDesk.Proofs.Table

/-!
# Halts by Hand

A halt by hand trips the breaker of a state as it was last left.  It does not roll the state over to
the day on which it is made.  On a state that is already on that day the halt holds until the day is
over, whatever results, balances and entries come in.

A state that was left on another day is rolled over by the next request at a time of the day, and
the halt goes with it: the request leaves what it would have left without the halt, and an entry is
decided as if there had been none.
-/

namespace TradingDesk.Risk

/-! ## Requests that let a halt stand -/

namespace Request

/-- Whether a request lets a halt of a user stand on a day: the calls of the user stay on the day, and
the breaker of the user is not reset. -/
def KeepsHalt (user : String) (day : Date) : Request → Prop
  | call c => c.StaysOn user day
  | reset other => other ≠ user
  | trip _ _ _ => True

instance (user : String) (day : Date) : (r : Request) → Decidable (r.KeepsHalt user day)
  | call c => inferInstanceAs (Decidable (c.StaysOn user day))
  | reset other => inferInstanceAs (Decidable (other ≠ user))
  | trip _ _ _ => .isTrue trivial

/-- The reason of a halt of a user after a request, which may be another halt. -/
def haltReason (user reason : String) : Request → String
  | trip other later _ => if other = user then later else reason
  | call _ | reset _ => reason

/-- The reason of the latest halt of a user, given the one before the requests. -/
def lastHaltReason (user reason : String) (requests : List Request) : String :=
  requests.foldl (haltReason user) reason

end Request

/-! ## Halted states -/

namespace State

variable {s s' : State} {reason : String} {day : Date} {now later : Instant} {limits : Settings}
  {size balance : Decimal} {openPositions : Nat} {why : Option String}

/-- A state on a day that is halted by hand for a reason. -/
structure HaltedOn (s : State) (reason : String) (day : Date) : Prop where
  date : s.lastResetDate = day
  tripped : s.breaker.tripped
  reason : s.breaker.reason = some ("manual: " ++ reason)

theorem haltedOn_trip (current : s.lastResetDate = day) (reason : String) (now : Instant) :
    (s.trip ("manual: " ++ reason) now).HaltedOn reason day :=
  ⟨current, rfl, rfl⟩

theorem HaltedOn.latches (halted : s.HaltedOn reason day) (led : s.Latches s') :
    s'.HaltedOn reason day := by
  have kept := led.breaker halted.tripped
  refine ⟨led.day.trans halted.date, ?_, ?_⟩
  · rw [kept]
    exact halted.tripped
  · rw [kept]
    exact halted.reason

theorem sizeDenial?_ne_breaker :
    sizeDenial? balance limits size ≠ some (some (.breaker why)) := by
  intro h
  obtain ⟨minimum, -, h⟩ := Option.bind_eq_some_iff.1 h
  obtain ⟨maximum, -, h⟩ := Option.bind_eq_some_iff.1 h
  split at h
  · obtain ⟨percent, -, h⟩ := Option.bind_eq_some_iff.1 h
    cases h
  · split at h
    · obtain ⟨percent, -, h⟩ := Option.bind_eq_some_iff.1 h
      cases h
    · cases h

theorem lossDenial?_ne_breaker : lossDenial? s limits ≠ some (some (.breaker why)) := by
  intro h
  unfold lossDenial? at h
  dsimp only at h
  split at h
  · cases h
  · obtain ⟨daily, -, h⟩ := Option.bind_eq_some_iff.1 h
    split at h
    · cases h
    · obtain ⟨weekly, -, h⟩ := Option.bind_eq_some_iff.1 h
      split at h
      · cases h
      · obtain ⟨fallen, -, h⟩ := Option.bind_eq_some_iff.1 h
        split at h <;> cases h

/-- Only a breaker that is on denies an entry because of the breaker. -/
theorem tripped_of_denial?
    (h : denial? s limits size openPositions = some (some (.breaker why))) :
    s.breaker.tripped := by
  by_contra off
  unfold denial? at h
  rw [if_neg off] at h
  split at h
  · cases h
  · split at h
    · cases h
    · obtain ⟨sized, measured, h⟩ := Option.bind_eq_some_iff.1 h
      split at h
      · cases h
        exact sizeDenial?_ne_breaker measured
      · exact lossDenial?_ne_breaker h

/-- On another day than that of the state nothing is left of a halt. -/
theorem rollOver_trip (other : later.date ≠ s.lastResetDate) (why : String) (now : Instant) :
    (s.trip why now).rollOver later = s.rollOver later := by
  have other' : later.date ≠ (s.trip why now).lastResetDate := other
  rw [rollOver_of_other_day other', rollOver_of_other_day other]
  rfl

end State

/-! ## Halts of a manager -/

namespace Manager

variable {m m' : Manager} {user reason : String} {s s' : State} {r : Request} {c : Call} {day : Date}
  {now later : Instant} {requests : List Request}

/-- Whether a halt of a user for a reason holds on a day: after any requests that let it stand, every
entry of the user is denied because of the breaker, with the reason of the latest halt. -/
def HaltHolds (m : Manager) (user reason : String) (day : Date) : Prop :=
  ∀ requests m', (∀ r ∈ requests, r.KeepsHalt user day) → m.serveAll? requests = some m' →
    ∀ size openPositions now, now.date = day →
      m'.check? user size openPositions now =
        some (some (.breaker (some ("manual: " ++ Request.lastHaltReason user reason requests))))

theorem trip_of_stored (known : m.stored? user = some s) (reason : String) (now : Instant) :
    m.trip user reason now = m.file user (s.trip ("manual: " ++ reason) now) := by
  rw [trip, known]

/-! ### A halt on the day of the state -/

theorem haltedOn_serve? (known : m.stored? user = some s) (halted : s.HaltedOn reason day)
    (keeps : r.KeepsHalt user day) (h : m.serve? r = some m') :
    ∃ s', m'.stored? user = some s' ∧ s'.HaltedOn (r.haltReason user reason) day := by
  cases r with
  | call c =>
    have today : c.StaysOn user s.lastResetDate := by
      rw [halted.date]
      exact keeps
    obtain ⟨s', known', led⟩ := perform?_latches known today h
    exact ⟨s', known', halted.latches led⟩
  | reset other =>
    cases h
    exact ⟨s, (stored?_reset_of_ne keeps).trans known, halted⟩
  | trip other later at_ =>
    cases h
    rw [Request.haltReason]
    by_cases own : other = user
    · subst own
      rw [if_pos rfl, trip_of_stored known]
      exact ⟨_, stored?_file_self m other _, State.haltedOn_trip halted.date later at_⟩
    · rw [if_neg own]
      exact ⟨s, (stored?_trip_of_ne own later at_).trans known, halted⟩

theorem haltedOn_serveAll? (known : m.stored? user = some s) (halted : s.HaltedOn reason day)
    (keeps : ∀ r ∈ requests, r.KeepsHalt user day) (h : m.serveAll? requests = some m') :
    ∃ s', m'.stored? user = some s' ∧
      s'.HaltedOn (Request.lastHaltReason user reason requests) day := by
  induction requests generalizing m s reason with
  | nil =>
    cases h
    exact ⟨s, known, halted⟩
  | cons r requests ih =>
    obtain ⟨between, served, h⟩ := Option.bind_eq_some_iff.1 h
    obtain ⟨s', known', halted'⟩ := haltedOn_serve? known halted (keeps r List.mem_cons_self) served
    exact ih known' halted' (fun r mem ↦ keeps r (List.mem_cons_of_mem _ mem)) h

theorem haltHolds_of_haltedOn (known : m.stored? user = some s) (halted : s.HaltedOn reason day) :
    m.HaltHolds user reason day := by
  intro requests m' keeps served size openPositions now today
  obtain ⟨s', known', halted'⟩ := haltedOn_serveAll? known halted keeps served
  rw [check?_of_tripped known' (today.trans halted'.date.symm) halted'.tripped, halted'.reason]

/-- A halt on the day of the state holds on this day. -/
theorem haltHolds_trip (known : m.stored? user = some s) (current : s.lastResetDate = now.date)
    (reason : String) : (m.trip user reason now).HaltHolds user reason now.date := by
  rw [trip_of_stored known]
  exact haltHolds_of_haltedOn (stored?_file_self m user _) (State.haltedOn_trip current reason now)

/-! ### States that are alike at a time -/

theorem file_file (m : Manager) (user : String) (s s' : State) :
    (m.file user s).file user s' = m.file user s' := by
  simp only [file, Table.insert_insert]

section Alike

variable (known : m.stored? user = some s) (same : s'.rollOver now = s.rollOver now)

include known same

theorem touch_file : (m.file user s').touch user now = m.touch user now := by
  rw [touch_of_stored known, touch_of_stored (stored?_file_self m user s'), file_file, same]

theorem check?_file (size : Decimal) (openPositions : Nat) :
    (m.file user s').check? user size openPositions now =
      m.check? user size openPositions now := by
  simp only [check?, state?, stored?_file_self, known, Option.map_some, same, settingsOf_file]

/-- A call at a time leaves the same of two states that are alike once they are rolled over to it. -/
theorem perform?_file (own : c.user = user) (timed : c.time? = some now) :
    (m.file user s').perform? c = m.perform? c := by
  have found : (m.file user s').stored? user = some s' := stored?_file_self m user s'
  have filed (made : Option State) :
      made.map ((m.file user s').file user) = made.map (m.file user) :=
    congrArg (Option.map · made) (funext fun t ↦ file_file m user s' t)
  cases c with
  | check other size openPositions at_ =>
    obtain rfl : other = user := own
    obtain rfl : at_ = now := Option.some.inj timed
    rw [perform?, check?_file known same, touch_file known same, perform?]
  | look other at_ =>
    obtain rfl : other = user := own
    obtain rfl : at_ = now := Option.some.inj timed
    rw [perform?, touch_file known same, perform?]
  | entry other at_ =>
    obtain rfl : other = user := own
    obtain rfl : at_ = now := Option.some.inj timed
    rw [perform?_entry found, perform?_entry known, filed, State.recordEntry?_congr same]
  | trade other profit at_ =>
    obtain rfl : other = user := own
    obtain rfl : at_ = now := Option.some.inj timed
    rw [perform?_trade, perform?_trade, found, known, filed, settingsOf_file]
    simp only [Option.getD_some]
    rw [State.recordTrade?_congr same]
  | balance other balance at_ =>
    obtain rfl : other = user := own
    obtain rfl : at_ = now := Option.some.inj timed
    rw [perform?_balance found, perform?_balance known, filed, settingsOf_file,
      State.setBalance?_congr same]
  | limits => cases timed

end Alike

/-! ### A halt on another day than that of the state -/

/-- The next call of the user on the day of such a halt leaves what it leaves without the halt, and
entries are decided as without it. -/
theorem trip_lapses (known : m.stored? user = some s) (stale : s.lastResetDate ≠ now.date)
    (reason : String) (today : later.date = now.date) :
    (∀ c, c.user = user → c.time? = some later →
        (m.trip user reason now).perform? c = m.perform? c) ∧
      ∀ size openPositions, (m.trip user reason now).check? user size openPositions later =
        m.check? user size openPositions later := by
  have other : later.date ≠ s.lastResetDate := today ▸ stale.symm
  have same := State.rollOver_trip other ("manual: " ++ reason) now
  rw [trip_of_stored known]
  exact ⟨fun c ↦ perform?_file known same, check?_file known same⟩

/-- Such a halt does not hold: an entry at its own time is not denied because of the breaker. -/
theorem not_haltHolds_trip (known : m.stored? user = some s) (stale : s.lastResetDate ≠ now.date)
    (reason : String) : ¬(m.trip user reason now).HaltHolds user reason now.date := by
  intro holds
  have denied := holds [] _ (by simp) rfl Decimal.zero 0 now rfl
  rw [(trip_lapses known stale reason rfl).2, check?, state?, known] at denied
  have tripped := State.tripped_of_denial? denied
  obtain ⟨left, today⟩ := (State.tripped_rollOver s now).1 tripped
  exact today ⟨left, stale.symm⟩

/-! ## The law -/

/-- A halt by hand holds on its day exactly when the state of the user is on that day already, as it
is after a look at the user on the day.  Otherwise every call of the user at a time of the day leaves
what it would have left without the halt, and entries are decided as without it. -/
theorem halt_holds_iff_current (known : m.stored? user = some s) (reason : String)
    (now : Instant) :
    ((m.trip user reason now).HaltHolds user reason now.date ↔ s.lastResetDate = now.date) ∧
      (∀ before, before.date = now.date →
        ((m.touch user before).trip user reason now).HaltHolds user reason now.date) ∧
      (s.lastResetDate ≠ now.date → ∀ later, later.date = now.date →
        (∀ c, c.user = user → c.time? = some later →
          (m.trip user reason now).perform? c = m.perform? c) ∧
        ∀ size openPositions, (m.trip user reason now).check? user size openPositions later =
          m.check? user size openPositions later) := by
  refine ⟨⟨?holds, ?current⟩, ?looked, ?stale⟩
  case holds =>
    intro holds
    by_contra stale
    exact not_haltHolds_trip known stale reason holds
  case current => exact fun current ↦ haltHolds_trip known current reason
  case looked =>
    intro before today
    rw [touch_of_stored known]
    apply haltHolds_trip (stored?_file_self m user _)
    rw [State.lastResetDate_rollOver, today]
  case stale =>
    intro stale later today
    exact trip_lapses known stale reason today

/-- A balance of 1000 on one day. -/
def settledDay : List Request :=
  [.call (.balance "u" (Decimal.const 1000 0) (.noon 0))]

/-- An entry, a gain and a larger balance, and a second halt by hand. -/
def busyDay : List Request :=
  [.call (.entry "u" (.noon 1)), .call (.trade "u" (Decimal.const 500 0) (.noon 1)),
    .call (.balance "u" (Decimal.const 9000 0) (.noon 1)), .trip "u" "review" (.noon 1)]

/-- After a look on the next day a halt holds through the day. -/
theorem halt_holds_iff_current_busyDay : ∃ m s m',
    (new Settings.standard).serveAll? settledDay = some m ∧ m.stored? "u" = some s ∧
      ((m.touch "u" (.noon 1)).trip "u" "news" (.noon 1)).serveAll? busyDay = some m' ∧
      m'.check? "u" (Decimal.const 100 0) 0 (.noon 1) =
        some (some (.breaker (some "manual: review"))) := by
  have ran : ((new Settings.standard).serveAll? settledDay).any (fun m ↦
      (m.stored? "u").isSome &&
        (((m.touch "u" (.noon 1)).trip "u" "news" (.noon 1)).serveAll? busyDay).isSome) := by
    decide +kernel
  obtain ⟨m, run, ran⟩ := (Option.any_eq_true _ _).1 ran
  obtain ⟨known, ran⟩ := (Bool.and_eq_true _ _).mp ran
  obtain ⟨s, known⟩ := Option.isSome_iff_exists.1 known
  obtain ⟨m', run'⟩ := Option.isSome_iff_exists.1 ran
  obtain ⟨-, looked, -⟩ := halt_holds_iff_current known "news" (.noon 1)
  exact ⟨m, s, m', run, known, run',
    looked (.noon 1) rfl busyDay m' (by decide +kernel) run' _ _ _ rfl⟩

/-- A halt on the day after the balance was set, and an entry that is allowed at its very time. -/
theorem halt_can_lapse : ∃ m,
    (new Settings.standard).serveAll? settledDay = some m ∧
      (m.stored? "u").isSome ∧
      (m.trip "u" "news" (.noon 1)).check? "u" (Decimal.const 100 0) 0 (.noon 1) =
        some none := by
  have ran : ((new Settings.standard).serveAll? settledDay).any (fun m ↦
      (m.stored? "u").isSome &&
        decide ((m.trip "u" "news" (.noon 1)).check? "u" (Decimal.const 100 0) 0 (.noon 1) =
          some none)) := by
    decide +kernel
  obtain ⟨m, run, ran⟩ := (Option.any_eq_true _ _).1 ran
  obtain ⟨known, allowed⟩ := (Bool.and_eq_true _ _).mp ran
  exact ⟨m, run, known, of_decide_eq_true allowed⟩

end Manager

end TradingDesk.Risk
