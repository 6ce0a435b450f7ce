import TradingDesk.Proofs.Risk.StoredState
import TradingDesk.Proofs.Table

/-!
# Risk States Survive a Restart

Saving writes the state of every user in a row of the user, and loading files every row under its
user.  A manager that served requests keeps each state under the user whom the state names, so the rows
are those of its users, and a new manager that loads them has the users and states of the old one.

Saving once more, by the old manager or the new one, replaces the rows and adds none.
-/

namespace TradingDesk.Risk.Manager

variable {m m' : Manager} {user : String} {s : State} {l : Ledger} {r : Request}
  {requests : List Request}

/-! ## What served requests leave -/

theorem distinct_serve? (distinct : m.states.names.Nodup) (h : m.serve? r = some m') :
    m'.states.names.Nodup := by
  cases serve?_files h with
  | nothing same => rwa [same]
  | state s s' o begins timed drawn operated filed =>
    rw [filed]
    exact Table.nodup_insert distinct

theorem distinct_serveAll? (distinct : m.states.names.Nodup)
    (h : m.serveAll? requests = some m') : m'.states.names.Nodup := by
  induction requests generalizing m with
  | nil =>
    cases h
    exact distinct
  | cons r requests ih =>
    obtain ⟨between, served, h⟩ := Option.bind_eq_some_iff.1 h
    exact ih (distinct_serve? distinct served) h

/-- Requests at times of a clock leave states that a text can hold, each under its user. -/
theorem storable_serveAll? (empty : m.states = [])
    (clocks : ∀ r ∈ requests, ∀ now, r.instant? = some now → now.IsClock)
    (h : m.serveAll? requests = some m') :
    ∀ user s, m'.stored? user = some s → s.user = user ∧ s.IsStorable := by
  refine forall_stored?_serveAll? (P := fun user s ↦ s.user = user ∧ s.IsStorable)
    (D := fun _ ↦ True) trivial ?_ ?_ clocks (fun _ _ _ _ ↦ trivial) empty h
  · intro user balance now _ clock
    exact ⟨rfl, State.isStorable_new user balance clock⟩
  · rintro user s o s' clocks - ⟨own, kept⟩ operated
    exact ⟨(State.user_operate? operated).trans own, kept.operate? clocks operated⟩

/-- Requests with amounts whose zeros carry no sign leave such states. -/
theorem plain_serveAll? (empty : m.states = [])
    (amounts : ∀ r ∈ requests, ∀ d, r.amount? = some d → d.IsPlain)
    (h : m.serveAll? requests = some m') :
    ∀ user s, m'.stored? user = some s → s.IsPlain := by
  refine forall_stored?_serveAll? (P := fun _ s ↦ s.IsPlain) (T := fun _ ↦ True)
    Decimal.isPlain_zero ?_ ?_ (fun _ _ _ _ ↦ trivial) amounts empty h
  · intro user balance now plain _
    exact State.isPlain_new user plain now
  · intro user s o s' _ amounts kept operated
    exact kept.operate? amounts operated

theorem length_users (m : Manager) : m.users.length = m.states.length := by
  simp [users, Table.names]

/-! ## Saving -/

/-- Whether every state is under the user whom it names. -/
def IsKeyed (m : Manager) : Prop :=
  ∀ entry ∈ m.states, entry.2.user = entry.1

theorem riskStates_save (keyed : m.IsKeyed) (l : Ledger) :
    (m.save l).riskStates = l.riskStates.insertAll m.states State.storedText := by
  obtain ⟨defaults, overrides, states⟩ := m
  change (states.foldl _ l).riskStates = _
  induction states generalizing l with
  | nil => rfl
  | cons entry states ih =>
    have here : entry.2.user = entry.1 := keyed entry List.mem_cons_self
    have later := ih (l.saveRiskState entry.2.user entry.2.storedText)
      fun entry mem ↦ keyed entry (List.mem_cons_of_mem _ mem)
    rw [List.foldl_cons, later, here]
    rfl

/-- An empty ledger gets one row for each user. -/
theorem riskStates_save_empty (keyed : m.IsKeyed) (distinct : m.states.names.Nodup) :
    (m.save Ledger.empty).riskStates = m.states.mapValues State.storedText := by
  rw [riskStates_save keyed]
  exact Table.insertAll_of_fresh distinct

/-! ## Loading -/

/-- Rows of states that are read back are all filed. -/
theorem loadRows_mapValues {entries : Table State}
    (storable : ∀ entry ∈ entries, entry.2.IsStorable) (m : Manager) :
    m.loadRows (entries.mapValues State.storedText) =
      ({ m with states := m.states.insertAll entries State.unsignedZeros }, none) := by
  induction entries generalizing m with
  | nil => rfl
  | cons entry entries ih =>
    have read : State.parse? entry.2.storedText = some entry.2.unsignedZeros :=
      State.parse?_storedText (storable entry List.mem_cons_self)
    change loadRows m ((entry.1, entry.2.storedText) :: Table.mapValues entries _) = _
    rw [loadRows, read]
    exact ih (fun entry mem ↦ storable entry (List.mem_cons_of_mem _ mem)) _

/-- A new manager that loads what was saved has a state for every user. -/
theorem load_save (keyed : m.IsKeyed) (distinct : m.states.names.Nodup)
    (storable : ∀ entry ∈ m.states, entry.2.IsStorable) (defaults : Settings) :
    (new defaults).load (m.save Ledger.empty) =
      ({ new defaults with states := m.states.sorted.mapValues State.unsignedZeros },
        .ok m.states.length) := by
  have reordered : m.states.sorted.Perm m.states := List.mergeSort_perm m.states _
  have rows : (m.save Ledger.empty).sortedRiskStates =
      m.states.sorted.mapValues State.storedText := by
    rw [Ledger.sortedRiskStates, riskStates_save_empty keyed distinct, Table.sorted_mapValues]
  have filed : Table.insertAll [] m.states.sorted State.unsignedZeros =
      m.states.sorted.mapValues State.unsignedZeros :=
    Table.insertAll_of_fresh ((reordered.map _).nodup_iff.2 distinct)
  have count : (m.states.sorted.mapValues State.storedText).length = m.states.length := by
    rw [Table.mapValues, List.length_map, reordered.length_eq]
  rw [load, rows, loadRows_mapValues fun entry mem ↦ storable entry (reordered.mem_iff.1 mem)]
  have none : (new defaults).states = [] := rfl
  dsimp only
  rw [count, none, filed]

/-- Restored states are keyed by their users. -/
theorem IsKeyed.of_states {restored : Manager} (keyed : m.IsKeyed)
    (states : restored.states = m.states.sorted.mapValues State.unsignedZeros) :
    restored.IsKeyed := by
  intro entry mem
  rw [states] at mem
  obtain ⟨entry, listed, rfl⟩ := List.mem_map.1 mem
  exact keyed entry ((List.mergeSort_perm m.states _).mem_iff.1 listed)

/-- Saving once more leaves the rows of the same users. -/
theorem names_save_again {again : Manager} (keyed : m.IsKeyed) (distinct : m.states.names.Nodup)
    (keyed' : again.IsKeyed) (known : ∀ name ∈ again.states.names, name ∈ m.states.names) :
    (again.save (m.save Ledger.empty)).riskStates.names = m.states.names := by
  have written : (m.save Ledger.empty).riskStates.names = m.states.names := by
    rw [riskStates_save_empty keyed distinct, Table.names_mapValues]
  rw [riskStates_save keyed', Table.names_insertAll_of_mem, written]
  rwa [written]

/-! ## The law -/

/-- After requests at times of a clock, saving to an empty ledger and loading into a new manager gives
back the users, their number and their states, but for the signs of zeros, and exactly so if no request
gave a zero with a sign.  Saving again, by either manager, leaves one row for each user. -/
theorem states_survive_restart {limits : Settings}
    (clocks : ∀ r ∈ requests, ∀ now ∈ r.instant?, now.IsClock)
    (run : (new limits).serveAll? requests = some m) :
    ∃ restored, (new limits).load (m.save Ledger.empty) = (restored, .ok m.users.length) ∧
      restored.users = m.users ∧
      (∀ user, restored.stored? user = (m.stored? user).map State.unsignedZeros) ∧
      ((∀ r ∈ requests, ∀ d ∈ r.amount?, d.IsPlain) →
        ∀ user, restored.stored? user = m.stored? user) ∧
      m.states.names.Nodup ∧
      ∀ again ∈ [m, restored],
        (again.save (m.save Ledger.empty)).riskStates.names = m.states.names := by
  have begins : (new limits).states.names.Nodup := List.nodup_nil
  have distinct : m.states.names.Nodup := distinct_serveAll? begins run
  have holds (entry : String × State) (mem : entry ∈ m.states) :
      entry.2.user = entry.1 ∧ entry.2.IsStorable :=
    storable_serveAll? rfl clocks run entry.1 entry.2 (Table.find?_of_mem distinct mem)
  have keyed : m.IsKeyed := fun entry mem ↦ (holds entry mem).1
  have loaded := load_save keyed distinct (fun entry mem ↦ (holds entry mem).2) limits
  generalize made : ({ new limits with states := m.states.sorted.mapValues State.unsignedZeros } :
    Manager) = restored at loaded
  have states : restored.states = m.states.sorted.mapValues State.unsignedZeros := by
    rw [← made]
  have names : restored.states.names = m.users := by
    rw [states, Table.names_mapValues, Table.names_sorted, users]
  have stored (user : String) :
      restored.stored? user = (m.stored? user).map State.unsignedZeros := by
    rw [stored?, states, Table.find?_mapValues, Table.find?_sorted distinct, stored?]
  refine ⟨restored, ?_, ?_, stored, ?_, distinct, ?_⟩
  · rw [loaded, length_users]
  · rw [users, names, users, Table.mergeSort_mergeSort]
  · intro amounts user
    rw [stored]
    cases known : m.stored? user with
    | none => rfl
    | some s =>
      have plain := plain_serveAll? rfl amounts run user s known
      rw [Option.map_some, plain.unsignedZeros]
  · intro again mem
    obtain rfl | rfl : again = m ∨ again = restored := by simpa using mem
    · exact names_save_again keyed distinct keyed fun _ mem ↦ mem
    · apply names_save_again keyed distinct (keyed.of_states states)
      intro name mem
      rw [names] at mem
      exact List.mem_mergeSort.1 mem

/-- Two users with names and a reason in which a text has to escape characters, the second of them at a
second of leap. -/
def escapedUsers : List Request :=
  let leap : Instant := ⟨1483228799, 1500000000⟩
  [.call (.balance "a\"\\" (Decimal.const 100000 2) (.noon 0)),
    .call (.trade "a\"\\" (Decimal.const 100 0).neg (.noon 0)),
    .call (.trade "ü" (Decimal.const 5 1) leap), .trip "ü" "5 € \n\t\x01" leap]

/-- Both users come back with their states. -/
theorem states_survive_restart_escapedUsers : ∃ m restored,
    (new Settings.standard).serveAll? escapedUsers = some m ∧
      (new Settings.standard).load (m.save Ledger.empty) = (restored, .ok 2) ∧
      ∀ user, restored.stored? user = m.stored? user := by
  have ran : ((new Settings.standard).serveAll? escapedUsers).any (·.states.length == 2) := by
    decide +kernel
  obtain ⟨m, run, two⟩ := (Option.any_eq_true _ _).1 ran
  obtain ⟨restored, loaded, -, -, same, -⟩ := states_survive_restart (by decide +kernel) run
  rw [length_users, eq_of_beq two] at loaded
  exact ⟨m, restored, run, loaded, same (by decide +kernel)⟩

end TradingDesk.Risk.Manager
