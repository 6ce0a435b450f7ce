import TradingDesk.Proofs.Risk.DailyCount

/-!
# Users are Isolated

The risk manager files states and limits by user, and limits that nobody set are common to all.  A
request works on what is held of its own user alone: its reply and what it leaves of that user
follow from that user's state and limits, and of every other user it changes nothing.

The requests of one user therefore get the same replies in an interleaved run as in the run that
keeps only them, and both runs hold the same of the user in the end.  A request that leaves the range
of its amounts has no reply.  A run breaks off there, and so does the run of the user whose request
it was.
-/

namespace TradingDesk.Risk

/-- What a request tells. -/
inductive Reply where
  | decision (denial : Option Denial)
  | snapshot (s : Option State)
  | booked (trips : Bool)
  | reset (tripped : Bool)
  | done
deriving DecidableEq

namespace Manager

variable {m m' n : Manager} {user other : String} {s : State} {r : Request}

/-- The reply to a request. -/
def reply? (m : Manager) : Request → Option Reply
  | .call (.check user size openPositions now) =>
    (m.check? user size openPositions now).map .decision
  | .call (.look user now) => some (.snapshot (m.state? user now))
  | .call (.entry user now) => (m.recordEntry? user now).map fun _ ↦ .done
  | .call (.trade user profit now) => (m.recordTrade? user profit now).map fun p ↦ .booked p.2
  | .call (.balance user balance now) => (m.setBalance? user balance now).map fun _ ↦ .done
  | .call (.limits _ _) => some .done
  | .reset user => some (.reset (m.reset user).2)
  | .trip _ _ _ => some .done

/-- The replies to requests one after another, each with the user whom it is for, and the manager at
the end. -/
def converse? (m : Manager) : List Request → Option (List (String × Reply) × Manager)
  | [] => some ([], m)
  | r :: requests => do
    let reply ← m.reply? r
    let m' ← m.serve? r
    let (replies, last) ← m'.converse? requests
    some ((r.user, reply) :: replies, last)

/-! ## What is held of a user -/

/-- The state of a user and the limits that apply to it. -/
def account (m : Manager) (user : String) : Option State × Settings :=
  (m.stored? user, m.settingsOf user)

theorem account_file_self (m : Manager) (user : String) (s : State) :
    (m.file user s).account user = (some s, m.settingsOf user) := by
  rw [account, stored?_file_self, settingsOf_file]

theorem account_setSettings_self (m : Manager) (user : String) (settings : Settings) :
    (m.setSettings user settings).account user = (m.stored? user, settings) := by
  have given : (m.setSettings user settings).settingsOf user = settings := by
    rw [settingsOf, setSettings, Table.find?_insert_self, Option.getD_some]
  rw [account, given]
  rfl

/-! ## Requests of other users -/

theorem stored?_serve?_of_ne (ne : r.user ≠ user) (h : m.serve? r = some m') :
    m'.stored? user = m.stored? user := by
  cases r with
  | call c => exact stored?_perform?_of_ne ne h
  | reset other =>
    cases h
    exact stored?_reset_of_ne ne
  | trip other reason now =>
    cases h
    exact stored?_trip_of_ne ne reason now

/-- A request changes nothing of another user. -/
theorem account_serve?_of_ne (ne : r.user ≠ user) (h : m.serve? r = some m') :
    m'.account user = m.account user := by
  have limits : m'.settingsOf user = m.settingsOf user := by
    apply settingsOf_serve? _ h
    rintro settings rfl
    exact ne rfl
  rw [account, stored?_serve?_of_ne ne h, limits, account]

/-! ## Requests of the user -/

section Own

variable (same : m.account user = n.account user)

include same

theorem stored?_congr : m.stored? user = n.stored? user :=
  congrArg Prod.fst same

theorem settingsOf_congr : m.settingsOf user = n.settingsOf user :=
  congrArg Prod.snd same

theorem state?_congr (now : Instant) : m.state? user now = n.state? user now := by
  rw [state?, stored?_congr same, state?]

theorem check?_congr (size : Decimal) (openPositions : Nat) (now : Instant) :
    m.check? user size openPositions now = n.check? user size openPositions now := by
  rw [check?, state?_congr same, settingsOf_congr same, check?]

/-- Filing one state in both managers. -/
theorem account_file_congr (s : State) :
    (m.file user s).account user = (n.file user s).account user := by
  rw [account_file_self, account_file_self, settingsOf_congr same]

theorem map_file_congr (made : Option State) :
    (made.map (m.file user)).map (·.account user) =
      (made.map (n.file user)).map (·.account user) := by
  cases made with
  | none => rfl
  | some s => exact congrArg some (account_file_congr same s)

theorem account_touch_congr (now : Instant) :
    (m.touch user now).account user = (n.touch user now).account user := by
  unfold touch
  rw [stored?_congr same]
  cases n.stored? user with
  | none => exact same
  | some s => exact account_file_congr same _

theorem reset_congr : (m.reset user).2 = (n.reset user).2 ∧
    (m.reset user).1.account user = (n.reset user).1.account user := by
  unfold reset
  rw [stored?_congr same]
  cases n.stored? user with
  | none => exact ⟨rfl, same⟩
  | some s =>
    cases halted : s.breaker.tripped with
    | true =>
      simp only [halted, if_true]
      exact ⟨trivial, account_file_congr same _⟩
    | false =>
      simp only [halted, Bool.false_eq_true, if_false]
      exact ⟨trivial, same⟩

theorem account_trip_congr (reason : String) (now : Instant) :
    (m.trip user reason now).account user = (n.trip user reason now).account user := by
  unfold trip
  rw [stored?_congr same]
  cases n.stored? user with
  | none => exact same
  | some s => exact account_file_congr same _

/-- The reply to a request of a user follows from what is held of the user. -/
theorem reply?_congr (own : r.user = user) : m.reply? r = n.reply? r := by
  have stored : m.stored? user = n.stored? user := stored?_congr same
  have limits : m.settingsOf user = n.settingsOf user := settingsOf_congr same
  cases r with
  | call c =>
    cases c with
    | check other size openPositions now =>
      obtain rfl : other = user := own
      rw [reply?, check?_congr same, reply?]
    | look other now =>
      obtain rfl : other = user := own
      rw [reply?, state?_congr same, reply?]
    | entry other now =>
      obtain rfl : other = user := own
      simp only [reply?, recordEntry?, stored]
      cases n.stored? other with
      | none => rfl
      | some s => simp only [Option.map_map, Function.comp_def]
    | trade other profit now =>
      obtain rfl : other = user := own
      simp only [reply?, recordTrade?, stored, limits, Option.bind_eq_bind, Option.map_bind,
        Function.comp_def, Option.map_some]
    | balance other balance now =>
      obtain rfl : other = user := own
      simp only [reply?, setBalance?, stored, limits]
      cases n.stored? other with
      | none => rfl
      | some s => simp only [Option.map_map, Function.comp_def]
    | limits other settings => rfl
  | reset other =>
    obtain rfl : other = user := own
    rw [reply?, (reset_congr same).1, reply?]
  | trip other reason now => rfl

/-- What a call leaves of its user follows from what was held of the user. -/
theorem account_perform?_congr {c : Call} (own : c.user = user) :
    (m.perform? c).map (·.account user) = (n.perform? c).map (·.account user) := by
  have stored : m.stored? user = n.stored? user := stored?_congr same
  have limits : m.settingsOf user = n.settingsOf user := settingsOf_congr same
  cases c with
  | check other size openPositions now =>
    obtain rfl : other = user := own
    rw [perform?, perform?, check?_congr same, Option.map_map, Option.map_map]
    exact congrArg (Option.map · _) (funext fun _ ↦ account_touch_congr same now)
  | look other now =>
    obtain rfl : other = user := own
    exact congrArg some (account_touch_congr same now)
  | entry other now =>
    obtain rfl : other = user := own
    cases known : n.stored? other with
    | none =>
      rw [perform?_entry_of_unknown (stored.trans known), perform?_entry_of_unknown known]
      exact congrArg some same
    | some s =>
      rw [perform?_entry (stored.trans known), perform?_entry known]
      exact map_file_congr same _
  | trade other profit now =>
    obtain rfl : other = user := own
    rw [perform?_trade, perform?_trade, stored, limits]
    exact map_file_congr same _
  | balance other balance now =>
    obtain rfl : other = user := own
    cases known : n.stored? other with
    | none =>
      rw [perform?_balance_of_unknown (stored.trans known), perform?_balance_of_unknown known]
      exact map_file_congr same _
    | some s =>
      rw [perform?_balance (stored.trans known), perform?_balance known, limits]
      exact map_file_congr same _
  | limits other settings =>
    obtain rfl : other = user := own
    rw [perform?, perform?, Option.map_some, Option.map_some, account_setSettings_self,
      account_setSettings_self, stored]

theorem account_serve?_congr (own : r.user = user) :
    (m.serve? r).map (·.account user) = (n.serve? r).map (·.account user) := by
  cases r with
  | call c => exact account_perform?_congr same own
  | reset other =>
    obtain rfl : other = user := own
    exact congrArg some (reset_congr same).2
  | trip other reason now =>
    obtain rfl : other = user := own
    exact congrArg some (account_trip_congr same reason now)

end Own

/-! ## Runs -/

/-- A run of requests of many users and the run of one user among them, from managers that hold the
same of this user. -/
theorem converse?_own {requests : List Request} {replies : List (String × Reply)}
    (same : m.account user = n.account user) (ran : m.converse? requests = some (replies, m')) :
    ∃ n', n.converse? (requests.filter (·.user = user)) =
        some (replies.filter (·.1 = user), n') ∧
      m'.account user = n'.account user := by
  induction requests generalizing m n replies with
  | nil =>
    cases ran
    exact ⟨n, rfl, same⟩
  | cons r requests ih =>
    obtain ⟨reply, replied, ran⟩ := Option.bind_eq_some_iff.1 ran
    obtain ⟨between, served, ran⟩ := Option.bind_eq_some_iff.1 ran
    obtain ⟨⟨rest, last⟩, ran, told⟩ := Option.bind_eq_some_iff.1 ran
    cases told
    by_cases own : r.user = user
    · have left := account_serve?_congr same own
      rw [served, Option.map_some] at left
      obtain ⟨between', served', same'⟩ := Option.map_eq_some_iff.1 left.symm
      obtain ⟨n', ran', same''⟩ := ih same'.symm ran
      refine ⟨n', ?_, same''⟩
      rw [reply?_congr same own] at replied
      rw [List.filter_cons_of_pos (by simpa using own), converse?, replied, served',
        List.filter_cons_of_pos (by simpa using own)]
      simp only [Option.bind_eq_bind, Option.bind_some, ran']
    · have same' : between.account user = n.account user :=
        (account_serve?_of_ne own served).trans same
      rw [List.filter_cons_of_neg (by simpa using own), List.filter_cons_of_neg (by simpa using own)]
      exact ih same' ran

/-- In a run that interleaves the requests of many users, each user gets the replies of the run that
keeps only the requests of this user, and the runs hold the same of the user at the end: its state,
its limits, and the reply to whatever it requests next, be it none. -/
theorem users_isolated {requests : List Request} {replies : List (String × Reply)}
    (ran : m.converse? requests = some (replies, m')) (user : String) :
    ∃ own, m.converse? (requests.filter (·.user = user)) =
        some (replies.filter (·.1 = user), own) ∧
      own.stored? user = m'.stored? user ∧ own.settingsOf user = m'.settingsOf user ∧
      ∀ r, r.user = user → own.reply? r = m'.reply? r := by
  have alike : m.account user = m.account user := rfl
  obtain ⟨own, ran', same⟩ := converse?_own alike ran
  refine ⟨own, ran', (stored?_congr same).symm, (settingsOf_congr same).symm, ?_⟩
  intro r ofUser
  exact (reply?_congr same ofUser).symm

/-- A loss that halts one user, between requests of another one who is halted by hand later on. -/
def twoUsers : List Request :=
  let size := Decimal.const 100 0
  [.call (.balance "u" (Decimal.const 10000 0) (.noon 0)),
    .call (.balance "v" (Decimal.const 10000 0) (.noon 0)),
    .call (.limits "v" { Settings.standard with maxOpenPositions := 1 }),
    .call (.trade "v" (Decimal.const 400 0).neg (.noon 0)), .call (.check "u" size 2 (.noon 0)),
    .call (.check "v" size 2 (.noon 0)), .call (.entry "u" (.noon 0)), .trip "u" "halt" (.noon 0),
    .reset "v", .call (.check "v" size 0 (.noon 0)), .call (.trade "u" size.neg (.noon 1)),
    .call (.look "v" (.noon 1)), .call (.look "u" (.noon 1))]

/-- The loss of the one trips a breaker, and the other is allowed to trade right after it. -/
theorem users_isolated_twoUsers : ∃ replies last own,
    (new Settings.standard).converse? twoUsers = some (replies, last) ∧
      ("v", .booked true) ∈ replies ∧ ("u", .decision none) ∈ replies ∧
      (new Settings.standard).converse? (twoUsers.filter (·.user = "u")) =
        some (replies.filter (·.1 = "u"), own) ∧
      own.stored? "u" = last.stored? "u" := by
  have ran : ((new Settings.standard).converse? twoUsers).any (fun p ↦
      decide (("v", Reply.booked true) ∈ p.1 ∧ ("u", Reply.decision none) ∈ p.1)) := by
    decide +kernel
  obtain ⟨⟨replies, last⟩, ran, told⟩ := (Option.any_eq_true _ _).1 ran
  obtain ⟨trips, allowed⟩ := of_decide_eq_true told
  obtain ⟨own, ran', stored, -, -⟩ := users_isolated ran "u"
  exact ⟨replies, last, own, ran, trips, allowed, ran', stored⟩

end Manager

end TradingDesk.Risk
