import TradingDesk.Proofs.Execution.Tries

/-!
# Each Level Fires Once

The levels that fire at a price are picked before the first of them fires, each at most once and
only while its flag is clear.  An exit that is filled sets the flag of its level, whether or not it
could be booked, and nothing clears a flag in the life of a position.  So the levels of all exits
that were filled in that life are distinct, over any number of calls, restores and restarts, as long
as no write of the ledger is lost before one of them.  After a lost write a level can fire again.

When all levels have been tried without a failure, each has its flag set or asked for nothing.  So a
second try at the same price finds no level that asks for anything.
-/

namespace TradingDesk.Execution

variable {σ : Type} {e : Engine σ} {d d' : Desk σ} {p q : Position} {levels : Nat}
  {user symbol : String} {price : Decimal}

/-! ## Levels that a price reaches -/

theorem pendingHits?_eq_some {l : Ladder} {hits : List LadderHit}
    (h : l.pendingHits? p price = some hits) :
    ∃ gross net, p.grossReturn? price = some gross ∧
      Decimal.sub? gross l.roundTripFee = some net ∧
      hits = if net ≤ Decimal.zero then [] else
        (l.levels.zipIdx.filter fun (level, index) ↦
          decide (level.threshold ≤ gross) && Ladder.isPending p.ladderHits index).map
            fun (level, index) ↦ ⟨index, level, net⟩ := by
  obtain ⟨gross, returned, h⟩ := Option.bind_eq_some_iff.1 h
  obtain ⟨net, charged, h⟩ := Option.bind_eq_some_iff.1 h
  refine ⟨gross, net, returned, charged, ?_⟩
  split at h
  · rename_i lost
    rw [if_pos lost]
    exact (Option.some.inj h).symm
  · rename_i gained
    rw [if_neg gained]
    exact (Option.some.inj h).symm

theorem isPending_iff {hits : List Bool} {i : Nat} :
    Ladder.isPending hits i = true ↔ hits[i]? = some false := by
  rw [Ladder.isPending, beq_iff_eq]

/-- The levels that a price reaches are distinct, and their flags are clear. -/
theorem pendingHits?_pending {l : Ladder} {hits : List LadderHit}
    (h : l.pendingHits? p price = some hits) :
    (hits.map (·.index)).Nodup ∧ ∀ hit ∈ hits, p.ladderHits[hit.index]? = some false := by
  obtain ⟨gross, net, -, -, rfl⟩ := pendingHits?_eq_some h
  split
  · simp
  · constructor
    · rw [List.map_map]
      change (List.map Prod.snd _).Nodup
      apply List.Nodup.sublist (List.filter_sublist.map Prod.snd)
      rw [List.zipIdx_map_snd]
      exact List.nodup_range'
    · intro hit mem
      obtain ⟨pair, reached, rfl⟩ := List.mem_map.1 mem
      have pending := (Bool.and_eq_true_iff.1 (List.mem_filter.1 reached).2).2
      exact isPending_iff.1 pending

theorem pendingHits?_within {l : Ladder} {hits : List LadderHit} (s : d.IsSound levels)
    (held : d.book.find? user symbol = some p) (h : l.pendingHits? p price = some hits) :
    ∀ hit ∈ hits, hit.index < levels := by
  intro hit mem
  rw [← s.flagged p (List.mem_of_find?_eq_some held)]
  exact (List.getElem?_eq_some_iff.1 ((pendingHits?_pending h).2 hit mem)).1

/-- The levels that the same price reaches later are those of before whose flags are still clear. -/
theorem pendingHits?_continues {l : Ladder} {hits : List LadderHit} (carried : Continues p q)
    (h : l.pendingHits? p price = some hits) :
    ∃ hits', l.pendingHits? q price = some hits' ∧ ∀ hit ∈ hits',
      q.ladderHits[hit.index]? = some false ∧
        (p.ladderHits[hit.index]? = some false → hit ∈ hits) := by
  obtain ⟨gross, net, returned, charged, rfl⟩ := pendingHits?_eq_some h
  have returned' : q.grossReturn? price = some gross := by
    rw [carried.same]
    exact returned
  by_cases lost : net ≤ Decimal.zero
  · refine ⟨[], ?_, by simp⟩
    simp [Ladder.pendingHits?, returned', charged, lost]
  · have reached : l.pendingHits? q price = some
        ((l.levels.zipIdx.filter fun (level, index) ↦
          decide (level.threshold ≤ gross) && Ladder.isPending q.ladderHits index).map
            fun (level, index) ↦ ⟨index, level, net⟩) := by
      simp [Ladder.pendingHits?, returned', charged, lost]
    refine ⟨_, reached, ?_⟩
    intro hit mem
    obtain ⟨pair, reached, rfl⟩ := List.mem_map.1 mem
    obtain ⟨listed, reaches⟩ := List.mem_filter.1 reached
    obtain ⟨above, pending⟩ := Bool.and_eq_true_iff.1 reaches
    refine ⟨isPending_iff.1 pending, fun clear ↦ ?_⟩
    rw [if_neg lost]
    apply List.mem_map.2
    refine ⟨pair, List.mem_filter.2 ⟨listed, ?_⟩, rfl⟩
    exact Bool.and_eq_true_iff.2 ⟨above, isPending_iff.2 clear⟩

namespace Engine

/-! ## Exits and their outcomes -/

/-- Tried exits with their outcomes, as far as they have one. -/
def outcomes (e : Engine σ) (tried : List (Desk σ × Exit)) : List (Exit × Outcome σ ExitReport) :=
  tried.filterMap fun (d, x) ↦ (e.exit? d x).map (x, ·)

/-- The exits that levels ask for when they fire one after another, with their outcomes. -/
def firings (e : Engine σ) (user symbol : String) (d : Desk σ) (hits : List LadderHit) :
    List (Exit × Outcome σ ExitReport) :=
  e.outcomes (e.fireTries user symbol d hits)

/-- The exits that the ladder tries at a price, with their outcomes. -/
def stepExits (e : Engine σ) (d : Desk σ) (user symbol : String) (price : Decimal) :
    List (Exit × Outcome σ ExitReport) :=
  e.outcomes (e.stepTries d user symbol price)

/-- The exits that a call tries, with their outcomes. -/
def exits (e : Engine σ) (d : Desk σ) (call : Call) : List (Exit × Outcome σ ExitReport) :=
  e.outcomes (e.tries d call)

/-- The levels of a user's position in a symbol whose exits were filled. -/
def filledLevels (user symbol : String) (tried : List (Exit × Outcome σ ExitReport)) : List Nat :=
  tried.filterMap fun (x, o) ↦
    if x.user = user ∧ x.symbol = symbol ∧ wasFilled o = true then x.level else none

theorem filledLevels_append (tried later : List (Exit × Outcome σ ExitReport)) :
    filledLevels user symbol (tried ++ later) =
      filledLevels user symbol tried ++ filledLevels user symbol later :=
  List.filterMap_append

theorem outcomes_cons {x : Exit} {o : Outcome σ ExitReport} (tried : e.exit? d x = some o)
    (rest : List (Desk σ × Exit)) : e.outcomes ((d, x) :: rest) = (x, o) :: e.outcomes rest := by
  rw [outcomes, List.filterMap_cons]
  dsimp only
  rw [tried]
  rfl

theorem exists_of_mem_outcomes {tried : List (Desk σ × Exit)} {x : Exit}
    {o : Outcome σ ExitReport} (mem : (x, o) ∈ e.outcomes tried) : ∃ d, (d, x) ∈ tried := by
  obtain ⟨⟨d, x'⟩, listed, same⟩ := List.mem_filterMap.1 mem
  obtain ⟨o', -, same⟩ := Option.map_eq_some_iff.1 same
  cases same
  exact ⟨d, listed⟩

theorem firings_nil (d : Desk σ) : e.firings user symbol d [] = [] := rfl

theorem firings_of_passed {hit : LadderHit} (held : d.book.find? user symbol = some p)
    (asked : asked? p hit = some none) (rest : List LadderHit) :
    e.firings user symbol d (hit :: rest) = e.firings user symbol d rest := by
  rw [firings, fireTries_of_passed held asked, firings]

theorem firings_of_asked {hit : LadderHit} {x : Exit} {o : Outcome σ ExitReport}
    (held : d.book.find? user symbol = some p) (asked : asked? p hit = some (some x))
    (tried : e.exit? d x = some o) (rest : List LadderHit) :
    e.firings user symbol d (hit :: rest) = (x, o) ::
      match o.result with
      | .error _ => []
      | .ok report => if report.closed then [] else e.firings user symbol o.desk rest := by
  rw [firings, fireTries_of_asked held asked tried, outcomes_cons tried]
  cases o.result with
  | error error => rfl
  | ok report =>
    dsimp only
    split <;> rfl

theorem stepExits_of_held {hits : List LadderHit} (held : d.book.find? user symbol = some p)
    (reached : e.settings.ladder.pendingHits? p price = some hits) :
    e.stepExits d user symbol price = e.firings user symbol d hits := by
  rw [stepExits, stepTries_of_held held reached, firings]

/-- A filled exit that a level of the position asked for is one more filled level. -/
theorem filledLevels_cons {hit : LadderHit} {x : Exit} {o : Outcome σ ExitReport}
    (held : d.book.find? user symbol = some p) (asked : asked? p hit = some (some x))
    (rest : List (Exit × Outcome σ ExitReport)) :
    filledLevels user symbol ((x, o) :: rest) =
      if wasFilled o = true then hit.index :: filledLevels user symbol rest
      else filledLevels user symbol rest := by
  obtain ⟨ofUser, inSymbol⟩ := Book.of_find?_eq_some held
  obtain ⟨ofUser', inSymbol', level, -⟩ := asked?_eq_some asked
  rw [filledLevels, List.filterMap_cons]
  dsimp only
  rw [ofUser', inSymbol', ofUser, inSymbol, level]
  by_cases filled : wasFilled o = true
  · simp [filled, filledLevels]
  · simp [filled, filledLevels]

/-- Exits that no level asked for fill no level. -/
theorem filledLevels_of_unleveled {tried : List (Desk σ × Exit)}
    (unleveled : ∀ t ∈ tried, t.2.level = none) :
    filledLevels user symbol (e.outcomes tried) = [] := by
  apply List.filterMap_eq_nil_iff.2
  rintro ⟨x, o⟩ mem
  obtain ⟨d, listed⟩ := exists_of_mem_outcomes mem
  dsimp only
  rw [unleveled (d, x) listed, ite_self]

theorem filledLevels_of_other {call : Call} (other : ¬call.Exits user symbol) :
    filledLevels user symbol (e.exits d call) = [] := by
  apply List.filterMap_eq_nil_iff.2
  rintro ⟨x, o⟩ mem
  obtain ⟨d', listed⟩ := exists_of_mem_outcomes mem
  obtain ⟨-, own⟩ := forall_mem_tries (P := fun _ ↦ True) (fun _ _ ↦ trivial) trivial _ listed
  apply if_neg
  rintro ⟨rfl, rfl, -⟩
  exact other own

/-! ## One call -/

/-- Levels that fire one after another are filled in their order, and their flags are set. -/
theorem fire?_filledLevels {hits : List LadderHit} {o : Outcome σ (List ExitReport)}
    (s : d.IsSound levels) (held : d.book.find? user symbol = some p)
    (within : ∀ hit ∈ hits, hit.index < levels) (h : e.fire? user symbol d hits = some o) :
    (filledLevels user symbol (e.firings user symbol d hits)).Sublist (hits.map (·.index)) ∧
      ∀ q, o.desk.book.find? user symbol = some q →
        ∀ i ∈ filledLevels user symbol (e.firings user symbol d hits),
          q.ladderHits[i]? = some true := by
  induction hits generalizing d p o with
  | nil => simp [firings_nil, filledLevels]
  | cons hit rest ih =>
    obtain ⟨inside, within⟩ := List.forall_mem_cons.1 within
    cases fire?_heldStep s held h with
    | passed asked more =>
      obtain ⟨sub, set⟩ := ih s held within more
      rw [firings_of_passed held asked]
      exact ⟨sub.cons _, set⟩
    | stopped asked tried ended kept flag =>
      rw [firings_of_asked held asked tried, ended, filledLevels_cons held asked]
      split
      · rename_i filled
        refine ⟨List.Sublist.cons_cons _ (List.nil_sublist _), ?_⟩
        intro q held' i mem
        obtain rfl := List.mem_singleton.1 mem
        obtain rfl := Option.some.inj (kept.symm.trans held')
        exact flag inside filled
      · exact ⟨List.nil_sublist _, by simp [filledLevels]⟩
    | @fired x first report _ _ asked tried ended unshut kept flag sound more =>
      obtain ⟨sub, set⟩ := ih sound kept within more
      have filled : wasFilled first = true := by
        rw [wasFilled, ended]
      rw [firings_of_asked held asked tried, ended, filledLevels_cons held asked, if_pos filled]
      dsimp only
      rw [unshut, if_neg Bool.false_ne_true]
      refine ⟨sub.cons_cons _, ?_⟩
      intro q held' i mem
      rcases List.mem_cons.1 mem with rfl | later
      · -- the levels that follow leave the flag that this one set
        have carried := fire?_continues sound kept more held'
        exact carried.flagged _ (flag inside)
      · exact set q held' i later

/-- The levels that are filled at a price are distinct, their flags were clear, and they are set. -/
theorem takeSteps?_filledLevels {o : Outcome σ (List ExitReport)} (s : d.IsSound levels)
    (held : d.book.find? user symbol = some p)
    (h : e.takeSteps? d user symbol price = some o) :
    (filledLevels user symbol (e.stepExits d user symbol price)).Nodup ∧
      ∀ i ∈ filledLevels user symbol (e.stepExits d user symbol price),
        p.ladderHits[i]? = some false ∧
          ∀ q, o.desk.book.find? user symbol = some q → q.ladderHits[i]? = some true := by
  obtain ⟨hits, reached, fired⟩ := takeSteps?_eq_some held h
  obtain ⟨distinct, pending⟩ := pendingHits?_pending reached
  obtain ⟨sub, set⟩ := fire?_filledLevels s held (pendingHits?_within s held reached) fired
  rw [stepExits_of_held held reached]
  refine ⟨distinct.sublist sub, fun i mem ↦ ⟨?_, fun q held' ↦ set q held' i mem⟩⟩
  obtain ⟨hit, listed, rfl⟩ := List.mem_map.1 (sub.subset mem)
  exact pending hit listed

/-- The same of every call. -/
theorem perform?_filledLevels {call : Call} (s : d.IsSound levels)
    (held : d.book.find? user symbol = some p) (h : e.perform? d call = some d') :
    (filledLevels user symbol (e.exits d call)).Nodup ∧
      ∀ i ∈ filledLevels user symbol (e.exits d call), p.ladderHits[i]? = some false ∧
        ∀ q, d'.book.find? user symbol = some q → q.ladderHits[i]? = some true := by
  have unleveled {tried : List (Desk σ × Exit)} (none : ∀ t ∈ tried, t.2.level = none) :
      (filledLevels user symbol (e.outcomes tried)).Nodup ∧
        ∀ i ∈ filledLevels user symbol (e.outcomes tried), p.ladderHits[i]? = some false ∧
          ∀ q, d'.book.find? user symbol = some q → q.ladderHits[i]? = some true := by
    rw [filledLevels_of_unleveled none]
    simp
  have forced {user' symbol' reason : String} :
      ∀ t ∈ e.forcedTries d user' symbol' reason, t.2.level = none := by
    intro t mem
    obtain ⟨-, same⟩ := forall_mem_forcedTries (P := fun _ ↦ True) (fun _ _ ↦ trivial) trivial t mem
    rw [same, fullExit]
  have steps {user' symbol' : String} {price : Decimal} {o : Outcome σ (List ExitReport)}
      (stepped : e.takeSteps? d user' symbol' price = some o) :
      (filledLevels user symbol (e.stepExits d user' symbol' price)).Nodup ∧
        ∀ i ∈ filledLevels user symbol (e.stepExits d user' symbol' price),
          p.ladderHits[i]? = some false ∧
            ∀ q, o.desk.book.find? user symbol = some q → q.ladderHits[i]? = some true := by
    by_cases own : user' = user ∧ symbol' = symbol
    · obtain ⟨rfl, rfl⟩ := own
      exact takeSteps?_filledLevels s held stepped
    · have other : ¬(Call.takeSteps user' symbol' price).Exits user symbol := own
      have nothing : filledLevels user symbol (e.stepExits d user' symbol' price) = [] :=
        filledLevels_of_other other
      rw [nothing]
      simp
  cases call with
  | enter => exact unleveled (by simp [tries])
  | exit => exact unleveled (by simp [tries])
  | forceExit => exact unleveled forced
  | takeSteps =>
    obtain ⟨o, stepped, rfl⟩ := Option.map_eq_some_iff.1 h
    exact steps stepped
  | check user' symbol' price =>
    obtain ⟨o, checked, rfl⟩ := Option.map_eq_some_iff.1 h
    unfold check? at checked
    rw [exits, tries]
    revert checked
    cases d.book.find? user' symbol' with
    | none => exact fun _ ↦ unleveled (by simp)
    | some p' =>
      intro checked
      dsimp only at checked ⊢
      unfold checkTries
      by_cases stopped : p'.stopHit price = true
      · rw [if_pos stopped]
        exact unleveled forced
      · rw [if_neg stopped] at checked ⊢
        by_cases reached : p'.takeProfitHit price = true
        · rw [if_pos reached]
          exact unleveled (by simp [fullExit])
        · rw [if_neg reached] at checked ⊢
          exact steps checked

/-! ## A second try -/

/-- When levels fired one after another without a failure, each has its flag set or asks for
nothing. -/
theorem fire?_settled {hits : List LadderHit} {o : Outcome σ (List ExitReport)}
    {reports : List ExitReport} (s : d.IsSound levels)
    (held : d.book.find? user symbol = some p) (within : ∀ hit ∈ hits, hit.index < levels)
    (h : e.fire? user symbol d hits = some o) (ended : o.result = .ok reports)
    (held' : o.desk.book.find? user symbol = some q) :
    (e.firings user symbol d hits).filterMap (·.2.result.toOption) = reports ∧
      ∀ hit ∈ hits, q.ladderHits[hit.index]? = some true ∨ asked? q hit = some none := by
  induction hits generalizing d p o reports with
  | nil =>
    cases h
    cases ended
    simp [firings_nil]
  | cons hit rest ih =>
    obtain ⟨inside, within⟩ := List.forall_mem_cons.1 within
    cases fire?_heldStep s held h with
    | passed asked more =>
      obtain ⟨same, settled⟩ := ih s held within more ended held'
      have carried := fire?_continues s held more held'
      have sound' := (fire?_isSound s more).held held'
      rw [firings_of_passed held asked]
      refine ⟨same, List.forall_mem_cons.2 ⟨.inr ?_, settled⟩⟩
      exact asked?_exhausted (s.held held) sound' carried.shrunk asked
    | stopped => cases ended
    | @fired x first report _ _ asked tried ended' unshut kept flag sound more =>
      obtain ⟨later, result, rfl⟩ := map_cons_eq_ok ended
      obtain ⟨same, settled⟩ := ih sound kept within more result held'
      have carried := fire?_continues sound kept more held'
      have reported : first.result.toOption = some report := by
        rw [ended']
        rfl
      rw [firings_of_asked held asked tried, ended']
      dsimp only
      rw [unshut, if_neg Bool.false_ne_true]
      constructor
      · rw [List.filterMap_cons]
        dsimp only
        rw [reported]
        exact congrArg (report :: ·) same
      · exact List.forall_mem_cons.2 ⟨.inl (carried.flagged _ (flag inside)), settled⟩

/-- Levels that ask for nothing do nothing. -/
theorem fire?_of_passed {hits : List LadderHit} (held : d.book.find? user symbol = some p)
    (passed : ∀ hit ∈ hits, asked? p hit = some none) :
    e.fire? user symbol d hits = some (.done d []) := by
  induction hits with
  | nil => rfl
  | cons hit rest ih =>
    obtain ⟨first, passed⟩ := List.forall_mem_cons.1 passed
    obtain ⟨tranche, cut, none⟩ := asked?_eq_none_iff.1 first
    unfold fire?
    rw [held]
    simp only [cut, none, if_true, Option.bind_eq_bind, Option.bind_some]
    exact ih passed

/-- After a try without a failure, another one at the same price does nothing. -/
theorem takeSteps?_again {o : Outcome σ (List ExitReport)} {reports : List ExitReport}
    (s : d.IsSound levels) (h : e.takeSteps? d user symbol price = some o)
    (ended : o.result = .ok reports) :
    (e.stepExits d user symbol price).filterMap (·.2.result.toOption) = reports ∧
      e.takeSteps? o.desk user symbol price = some (.done o.desk []) := by
  cases held : d.book.find? user symbol with
  | none =>
    rw [takeSteps?, held] at h
    cases h
    cases ended
  | some p =>
    obtain ⟨hits, reached, fired⟩ := takeSteps?_eq_some held h
    obtain ⟨⟨q, kept⟩, -⟩ := fire?_keeps s held fired
    have carried := fire?_continues s held fired kept
    have within := pendingHits?_within s held reached
    obtain ⟨same, settled⟩ := fire?_settled s held within fired ended kept
    obtain ⟨hits', reached', among⟩ := pendingHits?_continues carried reached
    rw [stepExits_of_held held reached]
    refine ⟨same, ?_⟩
    have passed : ∀ hit ∈ hits', asked? q hit = some none := by
      intro hit mem
      obtain ⟨clear, before⟩ := among hit mem
      have clear' : p.ladderHits[hit.index]? = some false := by
        apply carried.clear _ clear
        rw [(fire?_isSound s fired).flagged q (List.mem_of_find?_eq_some kept),
          s.flagged p (List.mem_of_find?_eq_some held)]
      rcases settled hit (before clear') with set | asked
      · rw [set] at clear
        cases clear
      · exact asked
    unfold takeSteps?
    rw [kept]
    simp only [reached', Option.bind_eq_bind, Option.bind_some]
    exact fire?_of_passed kept passed

end Engine

/-! ## A whole life -/

namespace Service

variable {s s' : Service σ}

/-- The exits that are tried in an event, with their outcomes. -/
def exitsAt (s : Service σ) : Event σ → List (Engine.Exit × Outcome σ ExitReport)
  | .call call => s.engine.exits s.desk call
  | .restore | .restart _ _ | .meanwhile _ _ | .outage _ => []

/-- The exits that are tried in events one after another, with their outcomes. -/
def exits (s : Service σ) : List (Event σ) → List (Engine.Exit × Outcome σ ExitReport)
  | [] => []
  | event :: later =>
    s.exitsAt event ++
      match s.step? event with
      | none => []
      | some s' => s'.exits later

theorem step?_filledLevels {event : Event σ} (sound : s.IsSound)
    (held : s.desk.book.find? user symbol = some p) (h : s.step? event = some s') :
    (Engine.filledLevels user symbol (s.exitsAt event)).Nodup ∧
      ∀ i ∈ Engine.filledLevels user symbol (s.exitsAt event), p.ladderHits[i]? = some false ∧
        ∀ q, s'.desk.book.find? user symbol = some q → q.ladderHits[i]? = some true := by
  cases event with
  | call call =>
    obtain ⟨d, performed, rfl⟩ := Option.map_eq_some_iff.1 h
    exact Engine.perform?_filledLevels sound held performed
  | restore | restart | meanwhile | outage => simp [exitsAt, Engine.filledLevels]

/-- The levels that are filled in the life of a position are distinct, and their flags were clear at
its start. -/
theorem Holds.filledLevels {later : List (Event σ)} (life : s.Holds user symbol later)
    (ran : s.run? later = some s') (sound : s.IsSound) (reliable : s.IsReliable levels later) :
    (Engine.filledLevels user symbol (s.exits later)).Nodup ∧
      ∀ p, s.desk.book.find? user symbol = some p →
        ∀ i ∈ Engine.filledLevels user symbol (s.exits later),
          p.ladderHits[i]? ≠ some true := by
  induction later generalizing s with
  | nil => simp [exits, Engine.filledLevels]
  | cons event later ih =>
    obtain ⟨middle, happened, ran⟩ := Option.bind_eq_some_iff.1 ran
    obtain ⟨p, held⟩ := Option.isSome_iff_exists.1 life.1
    obtain ⟨distinct, flags⟩ := step?_filledLevels sound held happened
    have more := life.2 middle happened
    rw [exits, happened, Engine.filledLevels_append]
    cases between : middle.desk.book.find? user symbol with
    | none =>
      obtain rfl := more.eq_nil_of_absent between
      have none : Engine.filledLevels user symbol (middle.exits []) = [] := rfl
      dsimp only
      rw [none, List.append_nil]
      refine ⟨distinct, ?_⟩
      intro p' same i mem
      obtain rfl := Option.some.inj (held.symm.trans same)
      simp [(flags i mem).1]
    | some r =>
      obtain ⟨distinct', clear⟩ := ih more ran (step?_isSound sound happened)
        (reliable.next happened)
      have carried := step?_continues sound reliable happened held between
      constructor
      · apply distinct.append distinct'
        intro i now late
        exact clear r between i late ((flags i now).2 r between)
      · intro p' same i mem
        obtain rfl := Option.some.inj (held.symm.trans same)
        rcases List.mem_append.1 mem with now | late
        · simp [(flags i now).1]
        · exact fun set ↦ clear r between i late (carried.flagged i set)

/-- The exits of the ladder that are filled in the life of a position are of distinct levels; and a
try of the ladder that ended without a failure, having reported the exits that it made, does nothing
when it is repeated at the same price. -/
theorem each_level_fires_once {engine : Engine σ} {market : σ} {killSwitch : KillSwitch}
    {clock : Instant} {events : List (Event σ)}
    (ran : (new engine market killSwitch clock).run? events = some s) :
    (∀ user symbol later s', s.run? later = some s' → s.Holds user symbol later →
        ((∀ event ∈ events ++ later, event.IsSteady engine.settings.ladder.levels.length) ∨
          ∀ event ∈ later, ¬event.Reads) →
        (Engine.filledLevels user symbol (s.exits later)).Nodup) ∧
      ∀ user symbol price o reports, s.engine.takeSteps? s.desk user symbol price = some o →
        o.result = .ok reports →
        (s.engine.stepExits s.desk user symbol price).filterMap (·.2.result.toOption) = reports ∧
          s.engine.takeSteps? o.desk user symbol price = some (.done o.desk []) := by
  have sound : s.IsSound := run?_isSound (isSound_new engine market killSwitch clock) ran
  constructor
  · intro user symbol later s' ran' life undisturbed
    exact (life.filledLevels ran' sound (isReliable_of_undisturbed ran undisturbed)).1
  · intro user symbol price o reports stepped ended
    exact Engine.takeSteps?_again sound stepped ended

end Service

/-! ## A climb with a second try -/

/-- The climb, another try at 103, and a check at 104. -/
def longClimb : List (Service.Event Broker.Script.State) :=
  climb ++
    [.call (.takeSteps "alice" "BTC-USD" (Decimal.const 103 0)),
      .call (.check "alice" "BTC-USD" (Decimal.const 104 0))]

theorem each_level_fires_once_climb : ∃ s s' o reports,
    climbing.run? [bought] = some s ∧ s.run? longClimb = some s' ∧
      Engine.filledLevels "alice" "BTC-USD" (s.exits longClimb) = [0, 1, 2, 3] ∧
      (Engine.filledLevels "alice" "BTC-USD" (s.exits longClimb)).Nodup ∧
      s.engine.takeSteps? s.desk "alice" "BTC-USD" (Decimal.const 103 0) = some o ∧
      o.result = .ok reports ∧ reports.length = 3 ∧
      s.engine.takeSteps? o.desk "alice" "BTC-USD" (Decimal.const 103 0) =
        some (.done o.desk []) := by
  have evaluated : (climbing.run? [bought]).any (fun s ↦
      decide (s.Holds "alice" "BTC-USD" longClimb) && (s.run? longClimb).isSome &&
        decide (Engine.filledLevels "alice" "BTC-USD" (s.exits longClimb) = [0, 1, 2, 3]) &&
        (s.engine.takeSteps? s.desk "alice" "BTC-USD" (Decimal.const 103 0)).any fun o ↦
          match o.result with
          | .error _ => false
          | .ok reports => decide (reports.length = 3)) = true := by
    decide +kernel
  obtain ⟨s, ran, evaluated⟩ := (Option.any_eq_true _ _).1 evaluated
  rw [Bool.and_eq_true, Bool.and_eq_true, Bool.and_eq_true, decide_eq_true_iff] at evaluated
  obtain ⟨⟨⟨life, done⟩, filled⟩, again⟩ := evaluated
  obtain ⟨s', ran'⟩ := Option.isSome_iff_exists.1 done
  obtain ⟨o, stepped, again⟩ := (Option.any_eq_true _ _).1 again
  split at again
  · cases again
  · rename_i reports ended
    have steady : ∀ event ∈ [bought] ++ longClimb, event.IsSteady 4 := by
      simp [bought, longClimb, climb, Service.Event.IsSteady, rehearsal, Settings.standard,
        Ladder.standard]
    obtain ⟨once, settled⟩ := Service.each_level_fires_once ran
    exact ⟨s, s', o, reports, ran, ran', of_decide_eq_true filled,
      once "alice" "BTC-USD" longClimb s' ran' life (.inl steady), stepped, ended,
      of_decide_eq_true again, (settled _ _ _ o reports stepped ended).2⟩

/-! ## A level that fires again -/

/-- The ladder while the ledger misses what it does, a restore, and the ladder at the same price. -/
def relapse : List (Service.Event Broker.Script.State) :=
  lapse ++
    [.restore, .outage [], .call (.takeSteps "alice" "BTC-USD" (Decimal.const 102 0))]

/-- A level fires twice when a restore takes its first exit back. -/
theorem level_can_fire_again : ∃ s s', lapsing.run? [bought] = some s ∧
    s.run? relapse = some s' ∧ s.Holds "alice" "BTC-USD" relapse ∧
      Engine.filledLevels "alice" "BTC-USD" (s.exits relapse) = [0, 0] ∧
      ¬(Engine.filledLevels "alice" "BTC-USD" (s.exits relapse)).Nodup := by
  have evaluated : (lapsing.run? [bought]).any (fun s ↦
      (s.run? relapse).isSome && decide (s.Holds "alice" "BTC-USD" relapse ∧
        Engine.filledLevels "alice" "BTC-USD" (s.exits relapse) = [0, 0])) = true := by
    decide +kernel
  obtain ⟨s, ran, evaluated⟩ := (Option.any_eq_true _ _).1 evaluated
  obtain ⟨done, evaluated⟩ := Bool.and_eq_true_iff.1 evaluated
  obtain ⟨s', ran'⟩ := Option.isSome_iff_exists.1 done
  obtain ⟨life, filled⟩ := of_decide_eq_true evaluated
  refine ⟨s, s', ran, ran', life, filled, ?_⟩
  rw [filled]
  decide

end TradingDesk.Execution
