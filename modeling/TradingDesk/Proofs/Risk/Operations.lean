import TradingDesk.Proofs.Risk.Consistency
import TradingDesk.Proofs.Risk.Isolation

/-!
# Requests as Operations

A request files at most one state, that of its user.  It makes this state by one operation at its own
time, from the state that it finds or from a new one.  A property that new states have and operations
keep is therefore one of every state of a manager.
-/

namespace TradingDesk.Risk

/-- The time of an operation that has one. -/
def State.Operation.time? : State.Operation → Option Instant
  | rollOver now | entry now | trade _ _ now | balance _ _ now | trip _ now => some now
  | clear => none

/-- The amount that an operation books or sets. -/
def State.Operation.amount? : State.Operation → Option Decimal
  | trade amount _ _ | balance amount _ _ => some amount
  | rollOver _ | entry _ | trip _ _ | clear => none

/-- The time that a request carries; a trip by hand writes its time down without rolling over. -/
def Request.instant? : Request → Option Instant
  | call c => c.time?
  | reset _ => none
  | trip _ _ now => some now

/-- The amount that a request books or sets. -/
def Request.amount? : Request → Option Decimal
  | call (.trade _ amount _) | call (.balance _ amount _) => some amount
  | _ => none

namespace Manager

variable {m m' : Manager} {user : String} {s s' : State} {r : Request} {requests : List Request}
  {profit balance : Decimal} {now : Instant}

/-- The state from which a request begins: that of its user, or a new one at its time. -/
def Begins (m : Manager) (r : Request) (s : State) : Prop :=
  m.stored? r.user = some s ∨
    ∃ balance now, (balance = Decimal.zero ∨ r.amount? = some balance) ∧
      r.instant? = some now ∧ s = State.new r.user balance now

/-- A request files nothing, or it files under its user what an operation at its time and with its
amount makes of the state from which it begins. -/
inductive Files (m : Manager) (r : Request) (m' : Manager) : Prop
  | nothing (same : m'.states = m.states)
  | state (s s' : State) (o : State.Operation) (begins : m.Begins r s)
      (timed : ∀ now, o.time? = some now → r.instant? = some now)
      (drawn : ∀ d, o.amount? = some d → r.amount? = some d)
      (operated : s.operate? o = some s') (filed : m' = m.file r.user s')

/-- Looking at a user rolls the state over. -/
theorem files_touch (timed : r.instant? = some now) : m.Files r (m.touch r.user now) := by
  cases known : m.stored? r.user with
  | none =>
    rw [touch, known]
    exact .nothing rfl
  | some s =>
    rw [touch_of_stored known]
    refine Files.state s _ (.rollOver now) (.inl known) ?_ ?_ rfl rfl
    · rintro now' ⟨⟩
      exact timed
    · intro d none
      cases none

theorem files_reset (m : Manager) (user : String) : m.Files (.reset user) (m.reset user).1 := by
  unfold reset
  split
  · exact .nothing rfl
  · rename_i s known
    split
    · refine .state s s.clear .clear (.inl known) ?_ ?_ rfl rfl
      · intro now none
        cases none
      · intro d none
        cases none
    · exact .nothing rfl

theorem files_trip (m : Manager) (user reason : String) (now : Instant) :
    m.Files (.trip user reason now) (m.trip user reason now) := by
  unfold trip
  split
  · exact .nothing rfl
  · rename_i s known
    refine .state s _ (.trip ("manual: " ++ reason) now) (.inl known) ?_ ?_ rfl rfl
    · exact fun _ same ↦ same
    · intro d none
      cases none

theorem files_trade (h : m.serve? (.call (.trade user profit now)) = some m') :
    m.Files (.call (.trade user profit now)) m' := by
  rw [serve?, perform?_trade] at h
  obtain ⟨s', recorded, rfl⟩ := Option.map_eq_some_iff.1 h
  refine .state _ s' (.trade profit _ now) ?_ (fun _ same ↦ same) (fun _ same ↦ same) recorded rfl
  cases known : m.stored? user with
  | none => exact .inr ⟨Decimal.zero, now, .inl rfl, rfl, rfl⟩
  | some s => exact .inl known

theorem files_balance (h : m.serve? (.call (.balance user balance now)) = some m') :
    m.Files (.call (.balance user balance now)) m' := by
  cases known : m.stored? user with
  | none =>
    rw [serve?, perform?_balance_of_unknown known] at h
    cases h
    refine .state _ _ (.rollOver now) (.inr ⟨balance, now, .inr rfl, rfl, rfl⟩) ?_ ?_ ?_ rfl
    · exact fun _ same ↦ same
    · intro d none
      cases none
    · exact congrArg some (State.rollOver_of_today (State.isDated_new user balance now) rfl)
  | some s =>
    rw [serve?, perform?_balance known] at h
    obtain ⟨s', changed, rfl⟩ := Option.map_eq_some_iff.1 h
    exact .state s s' (.balance balance _ now) (.inl known) (fun _ same ↦ same)
      (fun _ same ↦ same) changed rfl

/-- A request files what an operation makes of one state, or nothing. -/
theorem serve?_files (h : m.serve? r = some m') : m.Files r m' := by
  cases r with
  | call c =>
    cases c with
    | check user size openPositions now =>
      obtain ⟨answer, -, rfl⟩ := Option.map_eq_some_iff.1 h
      exact files_touch rfl
    | look user now =>
      cases h
      exact files_touch rfl
    | entry user now =>
      cases known : m.stored? user with
      | none =>
        rw [serve?, perform?_entry_of_unknown known] at h
        cases h
        exact .nothing rfl
      | some s =>
        rw [serve?, perform?_entry known] at h
        obtain ⟨s', counted, rfl⟩ := Option.map_eq_some_iff.1 h
        exact .state s s' (.entry now) (.inl known) (fun _ same ↦ same) (fun _ same ↦ same)
          counted rfl
    | trade user profit now => exact files_trade h
    | balance user balance now => exact files_balance h
    | limits user settings =>
      cases h
      exact .nothing rfl
  | reset user =>
    cases h
    exact files_reset m user
  | trip user reason now =>
    cases h
    exact files_trip m user reason now

/-- A user with a state keeps having one. -/
theorem known_serve? (known : m.stored? user = some s) (h : m.serve? r = some m') :
    ∃ s', m'.stored? user = some s' := by
  cases serve?_files h with
  | nothing same =>
    rw [stored?, same]
    exact ⟨s, known⟩
  | state before after o begins timed drawn operated filed =>
    subst filed
    by_cases own : user = r.user
    · subst own
      exact ⟨after, stored?_file_self m r.user after⟩
    · rw [stored?_file_of_ne m own]
      exact ⟨s, known⟩

theorem known_serveAll? (known : m.stored? user = some s) (h : m.serveAll? requests = some m') :
    ∃ s', m'.stored? user = some s' := by
  induction requests generalizing m s with
  | nil =>
    cases h
    exact ⟨s, known⟩
  | cons r requests ih =>
    obtain ⟨between, served, h⟩ := Option.bind_eq_some_iff.1 h
    obtain ⟨s', known'⟩ := known_serve? known served
    exact ih known' h

/-! ## Properties of every state -/

section Invariant

variable {P : String → State → Prop} {T : Instant → Prop} {D : Decimal → Prop}

/-- A property of new states that operations keep is one of what a request files, when the time and
the amount of the request are admissible. -/
theorem forall_stored?_serve? (zero : D Decimal.zero)
    (fresh : ∀ user balance now, D balance → T now → P user (State.new user balance now))
    (kept : ∀ user s o s', (∀ now, o.time? = some now → T now) →
      (∀ d, o.amount? = some d → D d) → P user s → s.operate? o = some s' → P user s')
    (timely : ∀ now, r.instant? = some now → T now) (proper : ∀ d, r.amount? = some d → D d)
    (holds : ∀ user s, m.stored? user = some s → P user s) (h : m.serve? r = some m') :
    ∀ user s, m'.stored? user = some s → P user s := by
  intro user t found
  cases serve?_files h with
  | nothing same =>
    rw [stored?, same] at found
    exact holds user t found
  | state s s' o begins timed drawn operated filed =>
    subst filed
    by_cases own : user = r.user
    case neg =>
      rw [stored?_file_of_ne m own] at found
      exact holds user t found
    case pos =>
      subst own
      rw [stored?_file_self] at found
      cases found
      apply kept r.user s o _ (fun now at_ ↦ timely now (timed now at_))
        (fun d booked ↦ proper d (drawn d booked)) _ operated
      obtain known | ⟨balance, now, given, at_, rfl⟩ := begins
      · exact holds r.user s known
      · apply fresh r.user balance now _ (timely now at_)
        obtain rfl | given := given
        · exact zero
        · exact proper balance given

/-- A property of new states that operations keep is one of every state of a manager that began
without states. -/
theorem forall_stored?_serveAll? (zero : D Decimal.zero)
    (fresh : ∀ user balance now, D balance → T now → P user (State.new user balance now))
    (kept : ∀ user s o s', (∀ now, o.time? = some now → T now) →
      (∀ d, o.amount? = some d → D d) → P user s → s.operate? o = some s' → P user s')
    (timely : ∀ r ∈ requests, ∀ now, r.instant? = some now → T now)
    (proper : ∀ r ∈ requests, ∀ d, r.amount? = some d → D d) (empty : m.states = [])
    (h : m.serveAll? requests = some m') : ∀ user s, m'.stored? user = some s → P user s := by
  have begins : ∀ user s, m.stored? user = some s → P user s := by
    intro user s known
    rw [stored?, empty] at known
    cases known
  clear empty
  induction requests generalizing m with
  | nil =>
    cases h
    exact begins
  | cons r requests ih =>
    obtain ⟨between, served, h⟩ := Option.bind_eq_some_iff.1 h
    apply ih (fun r mem ↦ timely r (List.mem_cons_of_mem _ mem))
      (fun r mem ↦ proper r (List.mem_cons_of_mem _ mem)) h
    exact forall_stored?_serve? zero fresh kept (timely r List.mem_cons_self)
      (proper r List.mem_cons_self) begins served

end Invariant

end Manager

end TradingDesk.Risk
