import TradingDesk.Proofs.Execution.Ladder

/-!
# Exits That Calls Try

Apart from an entry, a call comes down to exits that are tried one after another.  Which ones they
are depends on the call and on what it finds: an exit is tried as it was asked for, a forced one
again after a failure that allows it, and the levels that a price reaches ask for their tranches of
what is then open.  Each exit is listed with the desk that it finds, which is the desk that the one
before it left.

The list goes on for as long as the call does, also when the call ends in a fault.
-/

namespace TradingDesk.Execution.Engine

variable {σ : Type} {e : Engine σ} {d d' : Desk σ} {user symbol reason : String} {price : Decimal}
  {call : Call}

/-- The exits that a forced exit tries. -/
def forcedTries (e : Engine σ) (d : Desk σ) (user symbol reason : String) :
    List (Desk σ × Exit) :=
  (d, fullExit user symbol reason) ::
    match e.exit? d (fullExit user symbol reason) with
    | none => []
    | some o =>
      match o.result with
      | .ok _ => []
      | .error error =>
        if error.isRetryable then [(o.desk, fullExit user symbol reason)] else []

/-- The exits that levels ask for when they fire one after another. -/
def fireTries (e : Engine σ) (user symbol : String) (d : Desk σ) :
    List LadderHit → List (Desk σ × Exit)
  | [] => []
  | hit :: rest =>
    match (d.book.find? user symbol).bind (asked? · hit) with
    | none => []
    | some none => e.fireTries user symbol d rest
    | some (some x) =>
      (d, x) ::
        match e.exit? d x with
        | none => []
        | some o =>
          match o.result with
          | .error _ => []
          | .ok report => if report.closed then [] else e.fireTries user symbol o.desk rest

/-- The exits that the ladder tries at a price. -/
def stepTries (e : Engine σ) (d : Desk σ) (user symbol : String) (price : Decimal) :
    List (Desk σ × Exit) :=
  match (d.book.find? user symbol).bind (e.settings.ladder.pendingHits? · price) with
  | none => []
  | some hits => e.fireTries user symbol d hits

/-- The exits that a check tries for a position at a price. -/
def checkTries (e : Engine σ) (d : Desk σ) (p : Position) (user symbol : String)
    (price : Decimal) : List (Desk σ × Exit) :=
  if p.stopHit price then e.forcedTries d user symbol "stop_loss"
  else if p.takeProfitHit price then [(d, fullExit user symbol "take_profit")]
  else e.stepTries d user symbol price

/-- The exits that a call tries. -/
def tries (e : Engine σ) (d : Desk σ) : Call → List (Desk σ × Exit)
  | .enter _ => []
  | .exit user symbol fraction reason => [(d, ⟨user, symbol, fraction, reason, none⟩)]
  | .forceExit user symbol reason => e.forcedTries d user symbol reason
  | .takeSteps user symbol price => e.stepTries d user symbol price
  | .check user symbol price =>
    match d.book.find? user symbol with
    | none => []
    | some p => e.checkTries d p user symbol price

theorem stepTries_of_held {p : Position} {hits : List LadderHit}
    (held : d.book.find? user symbol = some p)
    (reached : e.settings.ladder.pendingHits? p price = some hits) :
    e.stepTries d user symbol price = e.fireTries user symbol d hits := by
  rw [stepTries, held, Option.bind_some, reached]

theorem fireTries_of_passed {p : Position} {hit : LadderHit}
    (held : d.book.find? user symbol = some p) (asked : asked? p hit = some none)
    (rest : List LadderHit) :
    e.fireTries user symbol d (hit :: rest) = e.fireTries user symbol d rest := by
  rw [fireTries, held, Option.bind_some, asked]

theorem fireTries_of_asked {p : Position} {hit : LadderHit} {x : Exit}
    {o : Outcome σ ExitReport} (held : d.book.find? user symbol = some p)
    (asked : asked? p hit = some (some x)) (tried : e.exit? d x = some o)
    (rest : List LadderHit) :
    e.fireTries user symbol d (hit :: rest) = (d, x) ::
      match o.result with
      | .error _ => []
      | .ok report => if report.closed then [] else e.fireTries user symbol o.desk rest := by
  simp only [fireTries, held, Option.bind_some, asked, tried]

/-! ## What every try finds -/

section Found

variable {P : Desk σ → Prop}

/-- What exits preserve holds of every desk on which a forced exit is tried. -/
theorem forall_mem_forcedTries (exits : ∀ {d x o}, P d → e.exit? d x = some o → P o.desk)
    (start : P d) : ∀ tried ∈ e.forcedTries d user symbol reason,
      P tried.1 ∧ tried.2 = fullExit user symbol reason := by
  rw [forcedTries, List.forall_mem_cons]
  refine ⟨⟨start, rfl⟩, ?_⟩
  intro tried mem
  split at mem
  · cases mem
  · rename_i o exited
    split at mem
    · cases mem
    · split at mem
      · rw [List.mem_singleton.1 mem]
        exact ⟨exits start exited, rfl⟩
      · cases mem

/-- What exits preserve holds of every desk on which a level fires, and the exit is what the level
asks of the position that it finds there. -/
theorem forall_mem_fireTries (exits : ∀ {d x o}, P d → e.exit? d x = some o → P o.desk)
    (hits : List LadderHit) (start : P d) : ∀ tried ∈ e.fireTries user symbol d hits,
      P tried.1 ∧ ∃ p, ∃ hit ∈ hits, tried.1.book.find? user symbol = some p ∧
        asked? p hit = some (some tried.2) := by
  induction hits generalizing d with
  | nil => simp [fireTries]
  | cons hit rest ih =>
    have later {d : Desk σ} (start : P d) : ∀ tried ∈ e.fireTries user symbol d rest,
        P tried.1 ∧ ∃ p, ∃ hit' ∈ hit :: rest, tried.1.book.find? user symbol = some p ∧
          asked? p hit' = some (some tried.2) := by
      intro tried mem
      obtain ⟨holds, p, hit', listed, found⟩ := ih start tried mem
      exact ⟨holds, p, hit', List.mem_cons_of_mem hit listed, found⟩
    intro tried mem
    unfold fireTries at mem
    split at mem
    · cases mem
    · exact later start tried mem
    · rename_i x asked
      obtain ⟨p, held, asked⟩ := Option.bind_eq_some_iff.1 asked
      rcases List.mem_cons.1 mem with rfl | mem
      · exact ⟨start, p, hit, List.mem_cons_self, held, asked⟩
      · split at mem
        · cases mem
        · rename_i o exited
          split at mem
          · cases mem
          · split at mem
            · cases mem
            · exact later (exits start exited) tried mem

theorem forall_mem_stepTries (exits : ∀ {d x o}, P d → e.exit? d x = some o → P o.desk)
    (start : P d) : ∀ tried ∈ e.stepTries d user symbol price,
      P tried.1 ∧ ∃ p hit, tried.1.book.find? user symbol = some p ∧
        asked? p hit = some (some tried.2) := by
  intro tried mem
  unfold stepTries at mem
  split at mem
  · cases mem
  · obtain ⟨holds, p, hit, -, found⟩ := forall_mem_fireTries exits _ start tried mem
    exact ⟨holds, p, hit, found⟩

/-- What exits preserve holds of every desk on which a call tries an exit, and the exit is one that
the call may try. -/
theorem forall_mem_tries (exits : ∀ {d x o}, P d → e.exit? d x = some o → P o.desk)
    (start : P d) : ∀ tried ∈ e.tries d call,
      P tried.1 ∧ call.Exits tried.2.user tried.2.symbol := by
  have forced {user symbol reason : String} : ∀ tried ∈ e.forcedTries d user symbol reason,
      P tried.1 ∧ user = tried.2.user ∧ symbol = tried.2.symbol := by
    intro tried mem
    obtain ⟨holds, same⟩ := forall_mem_forcedTries exits start tried mem
    rw [same]
    exact ⟨holds, rfl, rfl⟩
  have stepped {user symbol : String} {price : Decimal} :
      ∀ tried ∈ e.stepTries d user symbol price,
        P tried.1 ∧ user = tried.2.user ∧ symbol = tried.2.symbol := by
    intro tried mem
    obtain ⟨holds, p, hit, held, asked⟩ := forall_mem_stepTries exits start tried mem
    obtain ⟨ofUser, inSymbol⟩ := Book.of_find?_eq_some held
    obtain ⟨ofUser', inSymbol', -⟩ := asked?_eq_some asked
    exact ⟨holds, (ofUser'.trans ofUser).symm, (inSymbol'.trans inSymbol).symm⟩
  intro tried mem
  cases call with
  | enter => cases mem
  | exit =>
    rw [List.mem_singleton.1 mem]
    exact ⟨start, rfl, rfl⟩
  | forceExit => exact forced tried mem
  | takeSteps => exact stepped tried mem
  | check =>
    change tried ∈ (match _ with | none => [] | some p => e.checkTries d p _ _ _) at mem
    split at mem
    · cases mem
    · unfold checkTries at mem
      split at mem
      · exact forced tried mem
      · split at mem
        · rw [List.mem_singleton.1 mem]
          exact ⟨start, rfl, rfl⟩
        · exact stepped tried mem

end Found

/-! ## From one try to the next -/

/-- Exits that are tried one after another, each on the desk that the one before it left. -/
inductive Chained (e : Engine σ) : Desk σ → List (Desk σ × Exit) → Desk σ → Prop
  | none (d : Desk σ) : Chained e d [] d
  | next {d d' : Desk σ} {x : Exit} {o : Outcome σ ExitReport} {rest : List (Desk σ × Exit)}
      (tried : e.exit? d x = some o) (more : Chained e o.desk rest d') :
      Chained e d ((d, x) :: rest) d'

theorem Chained.single {x : Exit} {o : Outcome σ ExitReport} (h : e.exit? d x = some o) :
    Chained e d [(d, x)] o.desk :=
  .next h (.none o.desk)

theorem forceExit?_chained {o : Outcome σ ExitReport}
    (h : e.forceExit? d user symbol reason = some o) :
    Chained e d (e.forcedTries d user symbol reason) o.desk := by
  obtain ⟨first, tried, h⟩ := Option.bind_eq_some_iff.1 h
  rw [forcedTries, tried]
  dsimp only
  revert h
  cases first.result with
  | ok report =>
    rintro ⟨⟩
    exact .single tried
  | error error =>
    intro h
    dsimp only at h ⊢
    by_cases again : error.isRetryable = true
    · rw [if_pos again] at h ⊢
      exact .next tried (.single h)
    · rw [if_neg again] at h ⊢
      cases h
      exact .single tried

theorem fire?_chained {hits : List LadderHit} {o : Outcome σ (List ExitReport)}
    (h : e.fire? user symbol d hits = some o) :
    Chained e d (e.fireTries user symbol d hits) o.desk := by
  induction hits generalizing d o with
  | nil =>
    cases h
    exact .none d
  | cons hit rest ih =>
    cases fire?_step h with
    | unheld absent =>
      rw [fireTries, absent]
      exact .none d
    | passed held asked more =>
      rw [fireTries_of_passed held asked]
      exact ih more
    | stopped held asked tried ended =>
      rw [fireTries_of_asked held asked tried, ended]
      exact .single tried
    | closed held asked tried ended shut =>
      rw [fireTries_of_asked held asked tried, ended]
      dsimp only
      rw [if_pos shut]
      exact .single tried
    | fired held asked tried ended unshut more =>
      rw [fireTries_of_asked held asked tried, ended]
      dsimp only
      rw [unshut, if_neg Bool.false_ne_true]
      have later := ih more
      exact .next tried later

theorem takeSteps?_chained {o : Outcome σ (List ExitReport)}
    (h : e.takeSteps? d user symbol price = some o) :
    Chained e d (e.stepTries d user symbol price) o.desk := by
  cases held : d.book.find? user symbol with
  | none =>
    rw [takeSteps?, held] at h
    cases h
    rw [stepTries, held]
    exact .none d
  | some p =>
    obtain ⟨hits, reached, fired⟩ := takeSteps?_eq_some held h
    rw [stepTries_of_held held reached]
    exact fire?_chained fired

theorem check?_chained {o : Outcome σ (List ExitReport)}
    (h : e.check? d user symbol price = some o) :
    Chained e d (e.tries d (.check user symbol price)) o.desk := by
  change Chained e d (match d.book.find? user symbol with
    | none => []
    | some p => e.checkTries d p user symbol price) o.desk
  unfold check? at h
  revert h
  cases d.book.find? user symbol with
  | none =>
    rintro ⟨⟩
    exact .none d
  | some p =>
    intro h
    dsimp only at h ⊢
    unfold checkTries
    by_cases stopped : p.stopHit price = true
    · rw [if_pos stopped] at h ⊢
      obtain ⟨first, forced, rfl⟩ := Option.map_eq_some_iff.1 h
      exact forceExit?_chained forced
    · rw [if_neg stopped] at h ⊢
      by_cases reached : p.takeProfitHit price = true
      · rw [if_pos reached] at h ⊢
        obtain ⟨first, exited, rfl⟩ := Option.map_eq_some_iff.1 h
        exact .single exited
      · rw [if_neg reached] at h ⊢
        exact takeSteps?_chained h

/-- A call is an entry, or it leaves the desk that the exits it tries lead to. -/
theorem perform?_chained (h : e.perform? d call = some d') :
    (∃ entry o, call = .enter entry ∧ e.enter? d entry = some o ∧ d' = o.desk) ∨
      Chained e d (e.tries d call) d' := by
  cases call with
  | enter entry =>
    obtain ⟨o, entered, rfl⟩ := Option.map_eq_some_iff.1 h
    exact .inl ⟨entry, o, rfl, entered, rfl⟩
  | exit =>
    obtain ⟨o, exited, rfl⟩ := Option.map_eq_some_iff.1 h
    exact .inr (.single exited)
  | forceExit =>
    obtain ⟨o, forced, rfl⟩ := Option.map_eq_some_iff.1 h
    exact .inr (forceExit?_chained forced)
  | takeSteps =>
    obtain ⟨o, stepped, rfl⟩ := Option.map_eq_some_iff.1 h
    exact .inr (takeSteps?_chained stepped)
  | check =>
    obtain ⟨o, checked, rfl⟩ := Option.map_eq_some_iff.1 h
    exact .inr (check?_chained checked)

end TradingDesk.Execution.Engine
