import TradingDesk.Proofs.Risk.Operations

/-!
# Baselines of the Loss Limits

The losses of a day and of a week are measured against the balance with which the day or the week
began.  The first operation on a user in such a period takes the balance of the time as the baseline,
and a balance that is set later replaces the baseline only while it is zero.

The baseline of a period is therefore the first amount other than zero among the balance carried into
the period and the balances set within it.  A positive balance arms the limits unless that amount is
negative: losses booked before any balance was known leave a negative balance, and the next day or
week begins with it.
-/

namespace TradingDesk.Risk

/-! ## Periods -/

/-- The two periods over which losses are limited. -/
inductive Period where
  | day
  | week
deriving DecidableEq

namespace Period

/-- Whether two dates lie in one period. -/
def Same : Period → Date → Date → Prop
  | day, a, b => a = b
  | week, a, b => a.isoWeek = b.isoWeek

instance (p : Period) (a b : Date) : Decidable (p.Same a b) :=
  match p with
  | day => inferInstanceAs (Decidable (a = b))
  | week => inferInstanceAs (Decidable (a.isoWeek = b.isoWeek))

variable {p : Period} {a b c : Date}

theorem Same.refl (p : Period) (a : Date) : p.Same a a := by
  cases p with
  | day => exact Eq.refl a
  | week => exact Eq.refl a.isoWeek

/-- A date between two dates of one period is in that period. -/
theorem same_of_between (h : a ≤ b) (h' : b ≤ c) (same : p.Same a c) : p.Same b c := by
  cases p with
  | day =>
    cases (same : a = c)
    exact Date.le_antisymm h' h
  | week => exact Date.isoWeek_eq_of_between h h' same

end Period

/-- A baseline after a balance is set: zero gives way. -/
def settle (start balance : Decimal) : Decimal :=
  if start.isZero then balance else start

theorem settle_of_ne {start : Decimal} (set : start.isZero = false) (balance : Decimal) :
    settle start balance = start := by
  rw [settle, set]
  rfl

theorem foldl_settle_of_ne {start : Decimal} (set : start.isZero = false)
    (amounts : List Decimal) : amounts.foldl settle start = start := by
  induction amounts with
  | nil => rfl
  | cons amount amounts ih => rw [List.foldl_cons, settle_of_ne set, ih]

/-- Settling keeps the first amount other than zero. -/
theorem foldl_settle (start : Decimal) (amounts : List Decimal) {first : Decimal}
    (found : (start :: amounts).find? (!·.isZero) = some first) :
    amounts.foldl settle start = first := by
  induction amounts generalizing start with
  | nil =>
    obtain rfl := List.mem_singleton.1 (List.mem_of_find?_eq_some found)
    rfl
  | cons amount amounts ih =>
    cases zero : start.isZero with
    | true =>
      rw [List.find?_cons_of_neg (by simp [zero])] at found
      rw [List.foldl_cons, settle, if_pos zero]
      exact ih amount found
    | false =>
      rw [List.find?_cons_of_pos (by simp [zero])] at found
      cases found
      exact foldl_settle_of_ne zero _

/-- An amount other than zero is positive or negative. -/
theorem zero_lt_iff {d : Decimal} (nonzero : d.isZero = false) :
    Decimal.zero < d ↔ ¬d < Decimal.zero := by
  have ne : d.value ≠ 0 := by
    intro zero
    rw [Decimal.isZero_iff.2 zero] at nonzero
    cases nonzero
  rw [Decimal.lt_iff, Decimal.lt_iff, Decimal.value_zero, not_lt]
  exact ⟨le_of_lt, fun nonneg ↦ lt_of_le_of_ne nonneg ne.symm⟩

/-- Among amounts that end with a positive one there is a first one other than zero. -/
theorem exists_first {balance : Decimal} (positive : Decimal.zero < balance)
    (amounts : List Decimal) :
    ∃ first, (amounts ++ [balance]).find? (!·.isZero) = some first ∧ first.isZero = false := by
  have nonzero : balance.isZero = false := by
    rw [Decimal.lt_iff, Decimal.value_zero] at positive
    exact (Bool.not_eq_true _).mp fun zero ↦ positive.ne' (Decimal.isZero_iff.1 zero)
  have found : ((amounts ++ [balance]).find? (!·.isZero)).isSome := by
    apply List.find?_isSome.2
    exact ⟨balance, List.mem_append_right _ List.mem_cons_self, by rw [nonzero]; rfl⟩
  obtain ⟨first, found⟩ := Option.isSome_iff_exists.1 found
  have shown := List.find?_some found
  exact ⟨first, found, (Bool.not_eq_true' _).mp shown⟩

/-! ## Baselines of a state -/

namespace State

variable {s s' : State} {p : Period} {now : Instant} {date : Date} {f : Decimal → Decimal}

/-- The balance against which the losses of a period are measured. -/
def baseline (s : State) : Period → Decimal
  | .day => s.dayStartBalance
  | .week => s.weekStartBalance

/-- Whether a date is in the latest period that a state knows. -/
def IsIn (s : State) (p : Period) (date : Date) : Prop :=
  match p with
  | .day => s.lastResetDate = date
  | .week => s.lastResetWeek = date.isoWeek

instance (s : State) (p : Period) (date : Date) : Decidable (s.IsIn p date) :=
  match p with
  | .day => inferInstanceAs (Decidable (s.lastResetDate = date))
  | .week => inferInstanceAs (Decidable (s.lastResetWeek = date.isoWeek))

/-- The baseline of the period of a date, which begins with the balance if it is another one. -/
def baselineOn (s : State) (p : Period) (date : Date) : Decimal :=
  if s.IsIn p date then s.baseline p else s.balance

theorem baselineOn_congr {other : Date} (same : p.Same date other) (s : State) :
    s.baselineOn p date = s.baselineOn p other := by
  have isIn : s.IsIn p date ↔ s.IsIn p other := by
    cases p with
    | day => rw [IsIn, IsIn, show date = other from same]
    | week => rw [IsIn, IsIn, show date.isoWeek = other.isoWeek from same]
  exact if_congr isIn rfl rfl

/-- A state without a balance has no baseline. -/
theorem baselineOn_new_zero (user : String) (p : Period) (date : Date) :
    (new user Decimal.zero now).baselineOn p date = Decimal.zero := by
  have start : (new user Decimal.zero now).baseline p = Decimal.zero := by cases p <;> rfl
  rw [baselineOn, start]
  exact ite_self _

/-- What an operation at a time does: it enters the period of the time and changes the baseline that
is then in force. -/
structure Enters (s s' : State) (now : Instant) (f : Decimal → Decimal) : Prop where
  date : s'.lastResetDate = now.date
  week : s'.lastResetWeek = now.date.isoWeek
  baseline (p : Period) : s'.baseline p = f (s.baselineOn p now.date)

namespace Enters

theorem isIn_iff (entered : s.Enters s' now f) : s'.IsIn p date ↔ p.Same now.date date := by
  cases p with
  | day => rw [IsIn, entered.date, Period.Same]
  | week => rw [IsIn, entered.week, Period.Same]

theorem baselineOn_of_same (entered : s.Enters s' now f) (same : p.Same now.date date) :
    s'.baselineOn p date = f (s.baselineOn p date) := by
  rw [baselineOn, if_pos (entered.isIn_iff.2 same), entered.baseline, baselineOn_congr same]

theorem baselineOn_of_not_same (entered : s.Enters s' now f) (other : ¬p.Same now.date date) :
    s'.baselineOn p date = s'.balance :=
  if_neg (mt entered.isIn_iff.1 other)

/-- Filling in other fields. -/
theorem of_eq {between : State} (entered : s.Enters between now id)
    (date : s'.lastResetDate = between.lastResetDate)
    (week : s'.lastResetWeek = between.lastResetWeek)
    (baseline : ∀ p, s'.baseline p = f (between.baseline p)) : s.Enters s' now f where
  date := date.trans entered.date
  week := week.trans entered.week
  baseline p := (baseline p).trans (congrArg f (entered.baseline p))

end Enters

theorem enters_rollOver (s : State) (now : Instant) : s.Enters (s.rollOver now) now id where
  date := lastResetDate_rollOver s now
  week := lastResetWeek_rollOver s now
  baseline p := by
    have ofWeek (t : State) (week : Date.Week) :
        (t.toWeek week).dayStartBalance = t.dayStartBalance := by
      unfold toWeek
      split <;> rfl
    cases p with
    | day =>
      change ((s.toDay now.date).toWeek now.date.isoWeek).dayStartBalance =
        if s.lastResetDate = now.date then s.dayStartBalance else s.balance
      rw [ofWeek, toDay]
      by_cases today : now.date = s.lastResetDate
      · rw [if_pos today, if_pos today.symm]
      · rw [if_neg today, if_neg (Ne.symm today)]
        rfl
    | week =>
      have day : (s.toDay now.date).weekStartBalance = s.weekStartBalance ∧
          (s.toDay now.date).lastResetWeek = s.lastResetWeek ∧
          (s.toDay now.date).balance = s.balance := by
        unfold toDay
        split <;> exact ⟨rfl, rfl, rfl⟩
      obtain ⟨start, last, balance⟩ := day
      change ((s.toDay now.date).toWeek now.date.isoWeek).weekStartBalance =
        if s.lastResetWeek = now.date.isoWeek then s.weekStartBalance else s.balance
      rw [toWeek, last]
      by_cases thisWeek : now.date.isoWeek = s.lastResetWeek
      · rw [if_pos thisWeek, if_pos thisWeek.symm, start]
      · rw [if_neg thisWeek, if_neg (Ne.symm thisWeek)]
        exact balance

theorem enters_recordEntry? (h : s.recordEntry? now = some s') : s.Enters s' now id := by
  apply (enters_rollOver s now).of_eq <;> rw [recordEntry?_eq_some h]
  rintro (_ | _) <;> rfl

theorem baseline_measured (h : Measured s s' now) (p : Period) :
    s'.baseline p = s.baseline p := by
  rw [h.eq]
  cases p <;> rfl

theorem enters_recordTrade? {profit limit : Decimal}
    (h : s.recordTrade? profit limit now = some s') : s.Enters s' now id := by
  obtain ⟨balance, daily, weekly, losses, -, measured⟩ := recordTrade?_eq_some h
  apply (enters_rollOver s now).of_eq
  · rw [measured.eq]
  · rw [measured.eq]
  · intro p
    rw [baseline_measured measured]
    cases p <;> rfl

theorem enters_setBalance? {balance limit : Decimal}
    (h : s.setBalance? balance limit now = some s') : s.Enters s' now (settle · balance) := by
  obtain ⟨between, fallen, h⟩ := Option.bind_eq_some_iff.1 h
  have measured := measured_of_checked fallen h
  apply (enters_rollOver s now).of_eq
  · rw [measured.eq]
  · rw [measured.eq]
  · intro p
    rw [baseline_measured measured]
    cases p <;> rfl

theorem enters_new (user : String) (balance : Decimal) (now : Instant) :
    (new user Decimal.zero now).Enters (new user balance now) now (settle · balance) where
  date := rfl
  week := rfl
  baseline p := by
    rw [baselineOn_new_zero]
    cases p <;> rfl

end State

/-! ## Requests of a user in a period -/

namespace Request

variable {user : String} {p : Period} {date : Date} {requests : List Request} {r : Request}

/-- The balance that a request sets. -/
def balance? : Request → Option Decimal
  | call (.balance _ balance _) => some balance
  | _ => none

/-- The balances that requests set for a user. -/
def balancesOf (user : String) (requests : List Request) : List Decimal :=
  requests.filterMap fun r ↦ if r.user = user then r.balance? else none

/-- The change of a baseline by a request in its period. -/
def settleBy (r : Request) (start : Decimal) : Decimal :=
  r.balance?.elim start (settle start)

theorem balancesOf_append (user : String) (requests more : List Request) :
    balancesOf user (requests ++ more) = balancesOf user requests ++ balancesOf user more :=
  List.filterMap_append

theorem balancesOf_of_ne (other : r.user ≠ user) : balancesOf user [r] = [] := by
  simp [balancesOf, other]

theorem foldl_balancesOf (own : r.user = user) (start : Decimal) :
    (balancesOf user [r]).foldl settle start = settleBy r start := by
  cases set : r.balance? <;> simp [balancesOf, own, settleBy, set]

theorem balance?_of_untimed (untimed : r.time? = none) : r.balance? = none := by
  cases r with
  | call c =>
    cases c with
    | limits => rfl
    | check | look | entry | trade | balance => cases untimed
  | reset | trip => rfl

/-- Whether a request of a user has a time in the period of a date. -/
def isWithin (user : String) (p : Period) (date : Date) (r : Request) : Bool :=
  r.user = user && r.date?.any (p.Same · date)

/-- The requests before the first one of a user in a period. -/
def beforePeriod (user : String) (p : Period) (date : Date) (requests : List Request) :
    List Request :=
  requests.takeWhile (!isWithin user p date ·)

/-- The requests from the first one of a user in a period on. -/
def fromPeriod (user : String) (p : Period) (date : Date) (requests : List Request) :
    List Request :=
  requests.dropWhile (!isWithin user p date ·)

/-- A request of another user, one without a time, or one in the period of a date. -/
def StaysIn (user : String) (p : Period) (date : Date) (r : Request) : Prop :=
  r.user = user → ∀ d, r.date? = some d → p.Same d date

theorem isWithin_iff : r.isWithin user p date ↔
    r.user = user ∧ ∃ d, r.date? = some d ∧ p.Same d date := by
  simp [isWithin, Option.any_eq_true]

/-- Requests in order up to a date stay in its period from the first one in it on. -/
theorem staysIn_of_mem_fromPeriod (ordered : InOrder requests)
    (upTo : ∀ d ∈ requests.filterMap date?, d ≤ date)
    (mem : r ∈ fromPeriod user p date requests) : r.StaysIn user p date := by
  induction requests with
  | nil => cases mem
  | cons first rest ih =>
    have orderedRest : InOrder rest := by
      rw [InOrder, List.filterMap_cons] at ordered
      split at ordered
      · exact ordered
      · exact (List.pairwise_cons.1 ordered).2
    have upToRest : ∀ d ∈ rest.filterMap date?, d ≤ date := by
      intro d mem
      apply upTo d
      exact (List.sublist_cons_self first rest).filterMap date? |>.subset mem
    by_cases within : first.isWithin user p date
    case neg =>
      rw [fromPeriod, List.dropWhile_cons_of_pos (by simp [within])] at mem
      exact ih orderedRest upToRest mem
    case pos =>
      rw [fromPeriod, List.dropWhile_cons_of_neg (by simp [within])] at mem
      obtain ⟨-, began, dated, same⟩ := isWithin_iff.1 within
      intro own d dated'
      obtain rfl | later := List.mem_cons.1 mem
      · cases dated.symm.trans dated'
        exact same
      · have listed : d ∈ rest.filterMap date? := List.mem_filterMap.2 ⟨r, later, dated'⟩
        have after : began ≤ d := by
          rw [InOrder, List.filterMap_cons, dated] at ordered
          exact (List.pairwise_cons.1 ordered).1 d listed
        exact Period.same_of_between after (upToRest d listed) same

end Request

/-! ## Baselines of a manager -/

namespace Manager

open Request (settleBy balancesOf beforePeriod fromPeriod)

variable {m m' m'' : Manager} {user : String} {p : Period} {date : Date} {now : Instant}
  {r : Request} {requests : List Request}

/-- The balance of a user, zero for an unknown one. -/
def balanceOf (m : Manager) (user : String) : Decimal :=
  (m.stored? user).elim Decimal.zero (·.balance)

/-- The baseline of a user in the period of a date. -/
def baselineOn (m : Manager) (user : String) (p : Period) (date : Date) : Decimal :=
  (m.stored? user).elim Decimal.zero (·.baselineOn p date)

theorem baselineOn_of_stored? {s : State} (known : m.stored? user = some s) :
    m.baselineOn user p date = s.baselineOn p date := by
  rw [baselineOn, known]
  rfl

theorem balanceOf_of_stored? {s : State} (known : m.stored? user = some s) :
    m.balanceOf user = s.balance := by
  rw [balanceOf, known]
  rfl

/-- The state with which an operation on a user begins. -/
def stateFor (m : Manager) (user : String) (now : Instant) : State :=
  (m.stored? user).getD (State.new user Decimal.zero now)

theorem stateFor_of_stored? {s : State} (known : m.stored? user = some s) :
    m.stateFor user now = s := by
  rw [stateFor, known]
  rfl

theorem stateFor_of_unknown (unknown : m.stored? user = none) :
    m.stateFor user now = State.new user Decimal.zero now := by
  rw [stateFor, unknown]
  rfl

theorem baselineOn_stateFor (m : Manager) (user : String) (now : Instant) (p : Period)
    (date : Date) : (m.stateFor user now).baselineOn p date = m.baselineOn user p date := by
  rw [stateFor, baselineOn]
  cases m.stored? user with
  | none => exact State.baselineOn_new_zero user p date
  | some s => rfl

/-- A time enters its period, unless the user stays unknown. -/
theorem touch_enters (m : Manager) (user : String) (now : Instant) :
    (m.stored? user = none ∧ (m.touch user now).stored? user = none) ∨
      ∃ s', (m.touch user now).stored? user = some s' ∧
        (m.stateFor user now).Enters s' now id := by
  cases known : m.stored? user with
  | none =>
    left
    rw [touch, known]
    exact ⟨rfl, known⟩
  | some s =>
    right
    rw [touch_of_stored known, stateFor_of_stored? known]
    exact ⟨_, stored?_file_self m user _, s.enters_rollOver now⟩

/-- A request of a user at a time enters the period of the time, unless the user stays unknown. -/
theorem serve?_enters (own : r.user = user) (timed : r.time? = some now)
    (h : m.serve? r = some m') :
    (m.stored? user = none ∧ m'.stored? user = none ∧ r.balance? = none) ∨
      ∃ s', m'.stored? user = some s' ∧ (m.stateFor user now).Enters s' now (settleBy r) := by
  cases r with
  | call c =>
    cases c with
    | check other size openPositions now =>
      cases timed
      obtain rfl : other = user := own
      obtain ⟨answer, -, rfl⟩ := Option.map_eq_some_iff.1 h
      exact (m.touch_enters other _).imp (fun unknown ↦ ⟨unknown.1, unknown.2, rfl⟩) id
    | look other now =>
      cases timed
      obtain rfl : other = user := own
      cases h
      exact (m.touch_enters other _).imp (fun unknown ↦ ⟨unknown.1, unknown.2, rfl⟩) id
    | entry other now =>
      cases timed
      obtain rfl : other = user := own
      cases known : m.stored? other with
      | none =>
        rw [serve?, perform?_entry_of_unknown known] at h
        cases h
        exact .inl ⟨rfl, known, rfl⟩
      | some s =>
        rw [serve?, perform?_entry known] at h
        obtain ⟨s', counted, rfl⟩ := Option.map_eq_some_iff.1 h
        rw [stateFor_of_stored? known]
        exact .inr ⟨s', stored?_file_self m other s', State.enters_recordEntry? counted⟩
    | trade other profit now =>
      cases timed
      obtain rfl : other = user := own
      rw [serve?, perform?_trade] at h
      obtain ⟨s', recorded, rfl⟩ := Option.map_eq_some_iff.1 h
      exact .inr ⟨s', stored?_file_self m other s', State.enters_recordTrade? recorded⟩
    | balance other balance now =>
      cases timed
      obtain rfl : other = user := own
      right
      cases known : m.stored? other with
      | none =>
        rw [serve?, perform?_balance_of_unknown known] at h
        cases h
        rw [stateFor_of_unknown known]
        exact ⟨_, stored?_file_self m other _, State.enters_new other balance _⟩
      | some s =>
        rw [serve?, perform?_balance known] at h
        obtain ⟨s', changed, rfl⟩ := Option.map_eq_some_iff.1 h
        rw [stateFor_of_stored? known]
        exact ⟨s', stored?_file_self m other s', State.enters_setBalance? changed⟩
    | limits => cases timed
  | reset | trip => cases timed

/-- A change that leaves the balance and the baselines of a user alone. -/
structure Idle (m m' : Manager) (user : String) : Prop where
  balance : m'.balanceOf user = m.balanceOf user
  baseline (p : Period) (date : Date) : m'.baselineOn user p date = m.baselineOn user p date

theorem idle_of_stored? (same : m'.stored? user = m.stored? user) : m.Idle m' user where
  balance := by rw [balanceOf, same, balanceOf]
  baseline p date := by rw [baselineOn, same, baselineOn]

/-- Another breaker in the state of a user. -/
theorem idle_breaker {s : State} (known : m.stored? user = some s) (breaker : Breaker) :
    m.Idle (m.file user { s with breaker := breaker }) user where
  balance := by
    rw [balanceOf_of_stored? known, balanceOf_of_stored? (stored?_file_self m user _)]
  baseline p date := by
    rw [baselineOn_of_stored? known, baselineOn_of_stored? (stored?_file_self m user _)]
    cases p <;> rfl

/-- A request of another user, or one without a time, changes neither balance nor baselines. -/
theorem serve?_idle (idle : r.user ≠ user ∨ r.time? = none) (h : m.serve? r = some m') :
    m.Idle m' user := by
  by_cases own : r.user = user
  case neg => exact idle_of_stored? (stored?_serve?_of_ne own h)
  case pos =>
    subst own
    have untimed := idle.resolve_left (not_not_intro rfl)
    cases r with
    | call c =>
      cases c with
      | limits user settings =>
        cases h
        exact idle_of_stored? rfl
      | check | look | entry | trade | balance => cases untimed
    | reset user =>
      cases h
      unfold reset
      split
      · exact idle_of_stored? rfl
      · rename_i s known
        split
        · exact idle_breaker known _
        · exact idle_of_stored? rfl
    | trip user reason now =>
      cases h
      unfold trip
      split
      · exact idle_of_stored? rfl
      · rename_i s known
        exact idle_breaker known _

/-! ## Runs -/

/-- A request outside of a period leaves the period to begin with the balance. -/
theorem baselineOn_serve?_of_not_isWithin (outside : r.isWithin user p date = false)
    (begins : m.baselineOn user p date = m.balanceOf user) (h : m.serve? r = some m') :
    m'.baselineOn user p date = m'.balanceOf user := by
  by_cases timed : r.user = user ∧ ∃ now, r.time? = some now
  case neg =>
    have untimed : r.user ≠ user ∨ r.time? = none := by
      by_contra both
      rw [not_or, not_not, ← ne_eq, Option.ne_none_iff_exists'] at both
      exact timed both
    have idle : m.Idle m' user := serve?_idle untimed h
    rw [idle.baseline, idle.balance, begins]
  case pos =>
    obtain ⟨own, now, timed⟩ := timed
    have other : ¬p.Same now.date date := by
      intro same
      have within : r.isWithin user p date :=
        Request.isWithin_iff.2 ⟨own, now.date, by rw [Request.date?, timed]; rfl, same⟩
      rw [outside] at within
      cases within
    obtain ⟨-, unknown, -⟩ | ⟨s', known, entered⟩ := own ▸ serve?_enters rfl timed h
    · rw [baselineOn, balanceOf, unknown]
      rfl
    · rw [baselineOn_of_stored? known, balanceOf_of_stored? known]
      exact entered.baselineOn_of_not_same other

/-- A request in a period sets its baseline if it sets a balance and the baseline is zero. -/
theorem baselineOn_serve?_of_staysIn (stays : r.StaysIn user p date) (h : m.serve? r = some m') :
    m'.baselineOn user p date = (balancesOf user [r]).foldl settle (m.baselineOn user p date) := by
  by_cases own : r.user = user
  case neg =>
    rw [Request.balancesOf_of_ne own, (serve?_idle (.inl own) h).baseline]
    rfl
  case pos =>
    rw [Request.foldl_balancesOf own]
    cases timed : r.time? with
    | none =>
      rw [settleBy, Request.balance?_of_untimed timed, (serve?_idle (.inr timed) h).baseline]
      rfl
    | some now =>
      have same : p.Same now.date date := by
        apply stays own
        rw [Request.date?, timed]
        rfl
      obtain ⟨unknown, unknown', none⟩ | ⟨s', known, entered⟩ := serve?_enters own timed h
      · rw [settleBy, none, baselineOn, baselineOn, unknown, unknown']
        rfl
      · rw [baselineOn_of_stored? known, entered.baselineOn_of_same same, baselineOn_stateFor]

/-- Requests before a period leave it to begin with the balance. -/
theorem baselineOn_serveAll?_of_not_isWithin
    (outside : ∀ r ∈ requests, r.isWithin user p date = false)
    (begins : m.baselineOn user p date = m.balanceOf user)
    (h : m.serveAll? requests = some m') : m'.baselineOn user p date = m'.balanceOf user := by
  induction requests generalizing m with
  | nil =>
    cases h
    exact begins
  | cons r requests ih =>
    obtain ⟨between, served, h⟩ := Option.bind_eq_some_iff.1 h
    have first := baselineOn_serve?_of_not_isWithin (outside r List.mem_cons_self) begins served
    exact ih (fun r mem ↦ outside r (List.mem_cons_of_mem _ mem)) first h

/-- Requests in a period settle its baseline with the balances they set. -/
theorem baselineOn_serveAll?_of_staysIn (stays : ∀ r ∈ requests, r.StaysIn user p date)
    (h : m.serveAll? requests = some m') : m'.baselineOn user p date =
      (balancesOf user requests).foldl settle (m.baselineOn user p date) := by
  induction requests generalizing m with
  | nil =>
    cases h
    rfl
  | cons r requests ih =>
    obtain ⟨between, served, h⟩ := Option.bind_eq_some_iff.1 h
    rw [ih (fun r mem ↦ stays r (List.mem_cons_of_mem _ mem)) h,
      baselineOn_serve?_of_staysIn (stays r List.mem_cons_self) served, ← List.foldl_append,
      ← Request.balancesOf_append]
    rfl

/-- The baseline of a period is the balance carried into the period, settled with the balances that
are set within it. -/
theorem baselineOn_eq (empty : m.states = []) (run : m.serveAll? requests = some m')
    (ordered : Request.InOrder requests)
    (upTo : ∀ d ∈ requests.filterMap Request.date?, d ≤ date) :
    ∃ carried, m.serveAll? (beforePeriod user p date requests) = some carried ∧
      m'.baselineOn user p date =
        (balancesOf user (fromPeriod user p date requests)).foldl settle (carried.balanceOf user) := by
  have parts : requests =
      beforePeriod user p date requests ++ fromPeriod user p date requests :=
    List.takeWhile_append_dropWhile.symm
  rw [parts, serveAll?_append] at run
  obtain ⟨carried, before, within⟩ := Option.bind_eq_some_iff.1 run
  refine ⟨carried, before, ?_⟩
  have outside : ∀ r ∈ beforePeriod user p date requests, r.isWithin user p date = false := by
    intro r mem
    exact (Bool.not_eq_true' _).mp (List.all_eq_true.1 List.all_takeWhile r mem)
  have begins : m.baselineOn user p date = m.balanceOf user := by
    rw [baselineOn, balanceOf, stored?, empty]
    rfl
  rw [← baselineOn_serveAll?_of_not_isWithin outside begins before]
  apply baselineOn_serveAll?_of_staysIn _ within
  exact fun r mem ↦ Request.staysIn_of_mem_fromPeriod ordered upTo mem

/-! ## The law -/

/-- When days do not go back and a positive balance is set for a user, the losses of the day and of
the week are measured from then on against the first amount other than zero among the balance carried
into the period and the balances set within it.  They are measured against a positive baseline exactly
if this amount is not negative. -/
theorem baselines_armed_iff_carried_nonneg {balance : Decimal} (empty : m.states = [])
    (positive : Decimal.zero < balance)
    (run : m.serveAll? (requests ++ [.call (.balance user balance now)]) = some m')
    (ordered : ((requests ++ [Request.call (.balance user balance now)]).filterMap
      Request.time?).Pairwise (· ≤ ·)) :
    ∃ s, m'.stored? user = some s ∧ ∀ p, ∃ carried first,
      m.serveAll? (beforePeriod user p now.date requests) = some carried ∧
      (carried.balanceOf user :: (balancesOf user (fromPeriod user p now.date requests) ++
        [balance])).find? (!·.isZero) = some first ∧
      s.baseline p = first ∧
      (Decimal.zero < s.baseline p ↔ ¬first < Decimal.zero) ∧
      ∀ later m'', m'.serveAll? later = some m'' →
        (∀ r ∈ later, r.StaysIn user p now.date) →
        ∃ s'', m''.stored? user = some s'' ∧ s''.baselineOn p now.date = first := by
  obtain ⟨between, run, served⟩ := serveAll?_concat run
  obtain ⟨ordered, earlier⟩ := (Request.inOrder_of_times ordered).of_append
  have own : (Request.call (.balance user balance now)).user = user := rfl
  obtain ⟨-, -, none⟩ | ⟨s, known, entered⟩ := serve?_enters own rfl served
  · cases none
  refine ⟨s, known, ?_⟩
  intro p
  obtain ⟨carried, before, opening⟩ := baselineOn_eq empty run ordered (earlier now.date rfl)
  have stays : (Request.call (.balance user balance now)).StaysIn user p now.date := by
    rintro - d ⟨⟩
    exact Period.Same.refl p now.date
  have set : balancesOf user [.call (.balance user balance now)] = [balance] := by
    simp [balancesOf, Request.user, Call.user, Request.balance?]
  have settled := baselineOn_serve?_of_staysIn stays served
  rw [opening, set, ← List.foldl_append] at settled
  obtain ⟨first, found, nonzero⟩ := exists_first positive
    (carried.balanceOf user :: balancesOf user (fromPeriod user p now.date requests))
  rw [List.cons_append] at found
  rw [foldl_settle _ _ found] at settled
  have baseline : s.baseline p = first := by
    rw [← settled, baselineOn_of_stored? known, State.baselineOn,
      if_pos (entered.isIn_iff.2 (Period.Same.refl p now.date))]
  refine ⟨carried, first, before, found, baseline, ?sign, ?later⟩
  case sign =>
    rw [baseline]
    exact zero_lt_iff nonzero
  case later =>
    intro later m'' run' stays'
    obtain ⟨s'', known''⟩ := known_serveAll? known run'
    refine ⟨s'', known'', ?_⟩
    have kept := baselineOn_serveAll?_of_staysIn stays' run'
    rw [settled, foldl_settle_of_ne nonzero, baselineOn_of_stored? known''] at kept
    exact kept

/-- A loss of 50 and a gain of 80 while no balance is known. -/
def beforeBalance : List Request :=
  [.call (.trade "u" (Decimal.const 50 0).neg (.noon 0)),
    .call (.trade "u" (Decimal.const 80 0) (.noon 0))]

/-- On the day of the results the balance that is set becomes the baseline of day and week. -/
theorem baselines_armed_iff_carried_nonneg_sameDay : ∃ m' s,
    (new Settings.standard).serveAll?
      (beforeBalance ++ [.call (.balance "u" (Decimal.const 1000 0) (.noon 0))]) = some m' ∧
      m'.stored? "u" = some s ∧ ∀ p, Decimal.zero < s.baseline p := by
  have ran : ((new Settings.standard).serveAll?
      (beforeBalance ++ [.call (.balance "u" (Decimal.const 1000 0) (.noon 0))])).isSome := by
    decide +kernel
  obtain ⟨m', run⟩ := Option.isSome_iff_exists.1 ran
  obtain ⟨s, known, armed⟩ :=
    baselines_armed_iff_carried_nonneg rfl (by decide) run (by decide +kernel)
  refine ⟨m', s, run, known, ?_⟩
  intro p
  obtain ⟨carried, first, before, found, -, sign, -⟩ := armed p
  have opened : beforePeriod "u" p (Instant.noon 0).date beforeBalance = [] := by
    cases p <;> decide +kernel
  have set : balancesOf "u" (fromPeriod "u" p (Instant.noon 0).date beforeBalance) = [] := by
    cases p <;> decide +kernel
  rw [opened] at before
  cases before
  rw [set] at found
  obtain rfl : Decimal.const 1000 0 = first := Option.some.inj found
  exact sign.2 (by decide)

/-- A loss of 50 on one day and one of 400 on the next, while no balance is known. -/
def lossesBeforeBalance : List Request :=
  [.call (.trade "u" (Decimal.const 50 0).neg (.noon 0)),
    .call (.trade "u" (Decimal.const 400 0).neg (.noon 1))]

/-- A balance of 1000 that is set then does not become the baseline of the day, which began with the
50 lost, and the loss of 400 does not halt trading. -/
theorem balance_can_leave_negative_baseline : ∃ m' s,
    (new Settings.standard).serveAll?
      (lossesBeforeBalance ++ [.call (.balance "u" (Decimal.const 1000 0) (.noon 1))]) = some m' ∧
      m'.stored? "u" = some s ∧ s.dayStartBalance < Decimal.zero ∧ ¬s.breaker.tripped := by
  have ran : ((new Settings.standard).serveAll?
      (lossesBeforeBalance ++ [.call (.balance "u" (Decimal.const 1000 0) (.noon 1))])).any
        (fun m' ↦ (m'.stored? "u").any fun s ↦
          decide (s.dayStartBalance < Decimal.zero) && !s.breaker.tripped) := by
    decide +kernel
  obtain ⟨m', run, ran⟩ := (Option.any_eq_true _ _).1 ran
  obtain ⟨s, known, ran⟩ := (Option.any_eq_true _ _).1 ran
  obtain ⟨below, off⟩ := (Bool.and_eq_true _ _).mp ran
  refine ⟨m', s, run, known, of_decide_eq_true below, ?_⟩
  rw [(Bool.not_eq_true' _).mp off]
  exact Bool.false_ne_true

end Manager

end TradingDesk.Risk
