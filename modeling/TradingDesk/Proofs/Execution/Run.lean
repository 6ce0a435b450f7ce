import TradingDesk.Proofs.Execution.Step

/-!
# Runs of Execution

Callers of execution use five operations.  Apart from an entry, each of them comes down to exits of
one user in one symbol that are tried one after another: a forced exit tries at most two, and the
ladder tries one for each level until a level fails or closes the position.

A property of desks that single entries and single exits preserve therefore holds after every run.
-/

namespace TradingDesk.Execution

variable {σ : Type}

/-- A call of an operation. -/
inductive Call where
  | enter (entry : Entry)
  | exit (user symbol : String) (fraction : Decimal) (reason : String)
  | forceExit (user symbol reason : String)
  | takeSteps (user symbol : String) (price : Decimal)
  | check (user symbol : String) (price : Decimal)

/-- Whether a call exits positions of a user in a symbol. -/
def Call.Exits (user symbol : String) : Call → Prop
  | .enter _ => False
  | .exit u s _ _ | .forceExit u s _ | .takeSteps u s _ | .check u s _ => u = user ∧ s = symbol

namespace Engine

variable {e : Engine σ} {d d' : Desk σ} {user symbol : String}

/-- The desk after a call, however the call ended. -/
def perform? (e : Engine σ) (d : Desk σ) : Call → Option (Desk σ)
  | .enter entry => (e.enter? d entry).map (·.desk)
  | .exit user symbol fraction reason =>
    (e.exit? d ⟨user, symbol, fraction, reason, none⟩).map (·.desk)
  | .forceExit user symbol reason => (e.forceExit? d user symbol reason).map (·.desk)
  | .takeSteps user symbol price => (e.takeSteps? d user symbol price).map (·.desk)
  | .check user symbol price => (e.check? d user symbol price).map (·.desk)

/-- The desk after calls one after another. -/
def run? (e : Engine σ) (d : Desk σ) (calls : List Call) : Option (Desk σ) :=
  calls.foldlM e.perform? d

/-! ## Exits tried one after another -/

/-- Exits of a user in a symbol that are tried one after another, with their outcomes. -/
inductive Attempts (e : Engine σ) (user symbol : String) :
    Desk σ → List (Outcome σ ExitReport) → Desk σ → Prop
  | none (d : Desk σ) : Attempts e user symbol d [] d
  | next {d d' : Desk σ} {x : Exit} {o : Outcome σ ExitReport}
      {rest : List (Outcome σ ExitReport)} (ofUser : x.user = user) (inSymbol : x.symbol = symbol)
      (tried : e.exit? d x = some o) (more : Attempts e user symbol o.desk rest d') :
      Attempts e user symbol d (o :: rest) d'

/-- The reports of the exits that succeeded. -/
def reports (tried : List (Outcome σ ExitReport)) : List ExitReport :=
  tried.filterMap (·.result.toOption)

theorem Attempts.single {x : Exit} {o : Outcome σ ExitReport} (h : e.exit? d x = some o) :
    Attempts e x.user x.symbol d [o] o.desk :=
  .next rfl rfl h (.none o.desk)

theorem Attempts.append {d'' : Desk σ} {tried later : List (Outcome σ ExitReport)}
    (h : Attempts e user symbol d tried d') (h' : Attempts e user symbol d' later d'') :
    Attempts e user symbol d (tried ++ later) d'' := by
  induction h with
  | none => exact h'
  | next ofUser inSymbol exited more ih => exact .next ofUser inSymbol exited (ih h')

theorem reports_cons_of_ok {o : Outcome σ ExitReport} {report : ExitReport}
    (h : o.result = .ok report) (rest : List (Outcome σ ExitReport)) :
    reports (o :: rest) = report :: reports rest := by
  simp [reports, h, Except.toOption]

theorem reports_cons_of_error {o : Outcome σ ExitReport} {error : Error}
    (h : o.result = .error error) (rest : List (Outcome σ ExitReport)) :
    reports (o :: rest) = reports rest := by
  simp [reports, h, Except.toOption]

theorem reports_append (tried later : List (Outcome σ ExitReport)) :
    reports (tried ++ later) = reports tried ++ reports later :=
  List.filterMap_append

theorem forceExit?_attempts {reason : String} {o : Outcome σ ExitReport}
    (h : e.forceExit? d user symbol reason = some o) :
    ∃ tried, Attempts e user symbol d tried o.desk ∧ reports tried = reports [o] := by
  obtain ⟨first, tried, h⟩ := Option.bind_eq_some_iff.1 h
  have once (same : first = o) :
      ∃ tried, Attempts e user symbol d tried o.desk ∧ reports tried = reports [o] := by
    subst same
    exact ⟨[first], Attempts.single tried, rfl⟩
  split at h
  · exact once (Option.some.inj h)
  · rename_i error failed
    split at h
    · exact ⟨[first, o], .next rfl rfl tried (Attempts.single h), reports_cons_of_error failed [o]⟩
    · exact once (Option.some.inj h)

/-- Whether exits that were tried explain how an operation ended: its reports are those of the exits
that went through, and when it failed without a further level, none did. -/
structure Explains (tried : List (Outcome σ ExitReport)) (single : Prop)
    (result : Except Error (List ExitReport)) : Prop where
  reported : ∀ rs, result = .ok rs → reports tried = rs
  failed : single → ∀ error, result = .error error → reports tried = []

namespace Explains

variable {tried : List (Outcome σ ExitReport)} {single single' : Prop}

theorem ok {rs : List ExitReport} (h : reports tried = rs) : Explains tried single (.ok rs) :=
  ⟨fun rs' same ↦ h.trans (Except.ok.inj same), fun _ error same ↦ by cases same⟩

theorem error {error : Error} (h : reports tried = []) : Explains tried single (.error error) :=
  ⟨fun rs same ↦ (by cases same), fun _ _ _ ↦ h⟩

theorem imp {result : Except Error (List ExitReport)} (h : Explains tried single result)
    (weaker : single' → single) : Explains tried single' result :=
  ⟨h.reported, fun short ↦ h.failed (weaker short)⟩

/-- A single exit explains how it ended. -/
theorem of_reports {o : Outcome σ ExitReport} (h : reports tried = reports [o]) :
    Explains tried single (o.map fun r ↦ [r]).result := by
  cases ended : o.result with
  | error error =>
    rw [Outcome.map, ended]
    exact .error (h.trans (reports_cons_of_error ended []))
  | ok report =>
    rw [Outcome.map, ended]
    exact .ok (h.trans (reports_cons_of_ok ended []))

end Explains

theorem fire?_attempts {hits : List LadderHit} {o : Outcome σ (List ExitReport)}
    (h : e.fire? user symbol d hits = some o) :
    ∃ tried, Attempts e user symbol d tried o.desk ∧
      Explains tried (hits.length ≤ 1) o.result := by
  induction hits generalizing d o with
  | nil =>
    cases h
    exact ⟨[], .none d, .ok rfl⟩
  | cons hit hits ih =>
    unfold fire? at h
    split at h
    · cases h
      exact ⟨[], .none d, .error rfl⟩
    · obtain ⟨fraction, -, h⟩ := Option.bind_eq_some_iff.1 h
      split at h
      · obtain ⟨tried, attempts, explains⟩ := ih h
        exact ⟨tried, attempts, explains.imp fun short ↦ Nat.le_of_succ_le short⟩
      · obtain ⟨reason, -, h⟩ := Option.bind_eq_some_iff.1 h
        obtain ⟨first, tried, h⟩ := Option.bind_eq_some_iff.1 h
        unfold Outcome.andThen? at h
        split at h
        · rename_i failure failed
          cases h
          exact ⟨[first], Attempts.single tried, .error (reports_cons_of_error failed [])⟩
        · rename_i report succeeded
          dsimp only at h
          split at h
          · cases h
            exact ⟨[first], Attempts.single tried, .ok (reports_cons_of_ok succeeded [])⟩
          · obtain ⟨o', fired, rfl⟩ := Option.map_eq_some_iff.1 h
            obtain ⟨later, attempts, explains⟩ := ih fired
            refine ⟨first :: later, .next rfl rfl tried attempts, ?_⟩
            cases ended : o'.result with
            | error error =>
              rw [Outcome.map, ended]
              refine ⟨fun rs result ↦ (by cases result), fun short _ _ ↦ ?_⟩
              -- without a further level there is nothing left that could fail
              obtain rfl : hits = [] := by simpa using short
              cases fired
              cases ended
            | ok rs =>
              rw [Outcome.map, ended]
              refine .ok ?_
              rw [reports_cons_of_ok succeeded, explains.reported rs ended]

theorem length_pendingHits? {l : Ladder} {p : Position} {price : Decimal} {hits : List LadderHit}
    (h : l.pendingHits? p price = some hits) : hits.length ≤ l.levels.length := by
  obtain ⟨gross, -, h⟩ := Option.bind_eq_some_iff.1 h
  obtain ⟨net, -, h⟩ := Option.bind_eq_some_iff.1 h
  split at h
  · cases h
    simp
  · cases h
    rw [List.length_map]
    exact Nat.le_trans (List.length_filter_le _ _) (by simp)

theorem takeSteps?_attempts {price : Decimal} {o : Outcome σ (List ExitReport)}
    (h : e.takeSteps? d user symbol price = some o) :
    ∃ tried, Attempts e user symbol d tried o.desk ∧
      Explains tried (e.settings.ladder.levels.length ≤ 1) o.result := by
  unfold takeSteps? at h
  split at h
  · cases h
    exact ⟨[], .none d, .error rfl⟩
  · obtain ⟨hits, pending, h⟩ := Option.bind_eq_some_iff.1 h
    obtain ⟨tried, attempts, explains⟩ := fire?_attempts h
    exact ⟨tried, attempts, explains.imp (Nat.le_trans (length_pendingHits? pending))⟩

/-- A check tries exits one after another, and they explain how it ended. -/
theorem check?_attempts {price : Decimal} {o : Outcome σ (List ExitReport)}
    (h : e.check? d user symbol price = some o) :
    ∃ tried, Attempts e user symbol d tried o.desk ∧
      Explains tried (e.settings.ladder.levels.length ≤ 1) o.result := by
  unfold check? at h
  split at h
  · cases h
    exact ⟨[], .none d, .error rfl⟩
  · split at h
    · obtain ⟨first, forced, rfl⟩ := Option.map_eq_some_iff.1 h
      obtain ⟨tried, attempts, agree⟩ := forceExit?_attempts forced
      exact ⟨tried, attempts, .of_reports agree⟩
    · split at h
      · obtain ⟨first, exited, rfl⟩ := Option.map_eq_some_iff.1 h
        exact ⟨[first], Attempts.single exited, .of_reports rfl⟩
      · exact takeSteps?_attempts h

/-! ## Calls -/

/-- A call is an entry, or exits of one user in one symbol tried one after another. -/
theorem perform?_cases {call : Call} (h : e.perform? d call = some d') :
    (∃ entry o, call = .enter entry ∧ e.enter? d entry = some o ∧ d' = o.desk) ∨
      ∃ user symbol tried, call.Exits user symbol ∧ Attempts e user symbol d tried d' := by
  cases call with
  | enter entry =>
    obtain ⟨o, entered, rfl⟩ := Option.map_eq_some_iff.1 h
    exact .inl ⟨entry, o, rfl, entered, rfl⟩
  | exit user symbol fraction reason =>
    obtain ⟨o, exited, rfl⟩ := Option.map_eq_some_iff.1 h
    exact .inr ⟨user, symbol, [o], ⟨rfl, rfl⟩, Attempts.single exited⟩
  | forceExit user symbol reason =>
    obtain ⟨o, forced, rfl⟩ := Option.map_eq_some_iff.1 h
    obtain ⟨tried, attempts, -⟩ := forceExit?_attempts forced
    exact .inr ⟨user, symbol, tried, ⟨rfl, rfl⟩, attempts⟩
  | takeSteps user symbol price =>
    obtain ⟨o, stepped, rfl⟩ := Option.map_eq_some_iff.1 h
    obtain ⟨tried, attempts, -⟩ := takeSteps?_attempts stepped
    exact .inr ⟨user, symbol, tried, ⟨rfl, rfl⟩, attempts⟩
  | check user symbol price =>
    obtain ⟨o, checked, rfl⟩ := Option.map_eq_some_iff.1 h
    obtain ⟨tried, attempts, -⟩ := check?_attempts checked
    exact .inr ⟨user, symbol, tried, ⟨rfl, rfl⟩, attempts⟩

theorem exits_unique {call : Call} {user' symbol' : String} (h : call.Exits user symbol)
    (h' : call.Exits user' symbol') : user = user' ∧ symbol = symbol' := by
  cases call with
  | enter => cases h
  | exit | forceExit | takeSteps | check => exact ⟨h.1.symm.trans h'.1, h.2.symm.trans h'.2⟩

/-- Calls that exit positions of one user in one symbol are exits tried one after another. -/
theorem run?_attempts {calls : List Call} (exits : ∀ call ∈ calls, call.Exits user symbol)
    (ran : e.run? d calls = some d') : ∃ tried, Attempts e user symbol d tried d' := by
  induction calls generalizing d with
  | nil =>
    cases ran
    exact ⟨[], .none _⟩
  | cons call calls ih =>
    obtain ⟨middle, performed, ran⟩ := Option.bind_eq_some_iff.1 ran
    obtain ⟨later, rest⟩ := ih (fun call mem ↦ exits call (List.mem_cons_of_mem _ mem)) ran
    have exit := exits call List.mem_cons_self
    obtain ⟨entry, o, rfl, -, -⟩ | ⟨user', symbol', tried, exit', attempts⟩ :=
      perform?_cases performed
    · cases exit
    · obtain ⟨rfl, rfl⟩ := exits_unique exit exit'
      exact ⟨tried ++ later, attempts.append rest⟩

/-! ## Preservation -/

section Preservation

variable {P : Desk σ → Prop}

theorem Attempts.preserves {tried : List (Outcome σ ExitReport)}
    (exits : ∀ {d x o}, P d → e.exit? d x = some o → P o.desk)
    (h : Attempts e user symbol d tried d') (start : P d) : P d' := by
  induction h with
  | none => exact start
  | next ofUser inSymbol tried more ih => exact ih (exits start tried)

/-- What entries and exits preserve holds after every call. -/
theorem perform?_preserves {call : Call}
    (entries : ∀ {d entry o}, P d → e.enter? d entry = some o → P o.desk)
    (exits : ∀ {d x o}, P d → e.exit? d x = some o → P o.desk)
    (start : P d) (performed : e.perform? d call = some d') : P d' := by
  obtain ⟨entry, o, -, entered, rfl⟩ | ⟨user, symbol, tried, -, attempts⟩ :=
    perform?_cases performed
  · exact entries start entered
  · exact attempts.preserves exits start

/-- What entries and exits preserve holds after every run. -/
theorem run?_preserves {calls : List Call}
    (entries : ∀ {d entry o}, P d → e.enter? d entry = some o → P o.desk)
    (exits : ∀ {d x o}, P d → e.exit? d x = some o → P o.desk)
    (start : P d) (ran : e.run? d calls = some d') : P d' := by
  induction calls generalizing d with
  | nil =>
    cases ran
    exact start
  | cons call calls ih =>
    obtain ⟨middle, performed, ran⟩ := Option.bind_eq_some_iff.1 ran
    exact ih (perform?_preserves entries exits start performed) ran

end Preservation

end Engine

end TradingDesk.Execution
