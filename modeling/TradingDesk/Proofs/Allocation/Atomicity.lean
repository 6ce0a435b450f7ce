import TradingDesk.Proofs.Allocation.Operations

/-!
# Atomic Operations

An operation that fails leaves the allocator as it was, although its steps write targets one by one:
whatever can fail is tested before the first write.  The history of plans only grows, by the plan
that an operation answers with, and making a plan changes nothing else but the planned shares of the
targets that it is made over.

Targets are filed under their names with bounds that were tested, so that the weights of every method
exist.
-/

namespace TradingDesk.Allocation

variable {targets : List Target} {method : Method}

/-! ## Weights -/

theorem isSome_mapM {α β : Type} {f : α → Option β} {xs : List α} (h : ∀ x ∈ xs, (f x).isSome) :
    (xs.mapM f).isSome := by
  induction xs with
  | nil => rfl
  | cons x xs ih =>
    obtain ⟨y, first⟩ := Option.isSome_iff_exists.1 (h x List.mem_cons_self)
    obtain ⟨ys, rest⟩ :=
      Option.isSome_iff_exists.1 (ih fun z mem ↦ h z (List.mem_cons_of_mem x mem))
    rw [List.mapM_cons, first, rest]
    rfl

theorem isSome_clamp? {low high : Float} (ordered : low ≤ high) (x : Float) :
    (Binary64.clamp? x low high).isSome := by
  rw [Binary64.clamp?, if_pos ordered]
  rfl

theorem isSome_clipAndScale? (ordered : ∀ t ∈ targets, t.minShare ≤ t.maxShare)
    (raw : List Float) : (clipAndScale? targets raw).isSome := by
  have limited : ((targets.zip raw).mapM fun entry ↦ Binary64.clamp? (entry.2 / Binary64.sum raw)
      entry.1.minShare entry.1.maxShare).isSome := by
    apply isSome_mapM
    intro entry mem
    exact isSome_clamp? (ordered entry.1 (List.of_mem_zip mem).1) _
  obtain ⟨clipped, limited⟩ := Option.isSome_iff_exists.1 limited
  unfold clipAndScale?
  dsimp only
  split
  · rfl
  · rw [limited, Option.bind_eq_bind, Option.bind_some]
    split
    · rfl
    · rfl

/-- Ordered bounds are all that the weights of a method need. -/
theorem isSome_weights? (ordered : ∀ t ∈ targets, t.minShare ≤ t.maxShare) (method : Method) :
    (weights? method targets).isSome := by
  cases method with
  | equalWeight => rfl
  | sharpeWeighted => exact isSome_clipAndScale? ordered _
  | riskParity => exact isSome_clipAndScale? ordered _
  | kelly => rfl

/-- The bounds on the weight of an edge are ordered. -/
theorem clamp?_kellyWeight (t : Target) :
    Binary64.clamp? (finiteOr t.figures.sharpeRatio 0.0 / 10.0) 0.01 0.25 =
      some (kellyWeight t) := by
  have ordered : (0.01 : Float) ≤ 0.25 := by decide
  rw [kellyWeight, Binary64.clamp?, if_pos ordered]
  rfl

/-! ## Entries by name -/

section Entries

variable {α : Type} {entries : List (String × α)}

/-- Entries that are named once are their names with what is found under them. -/
theorem map_lookup (once : (entries.map (·.1)).Nodup) (default : α) :
    (entries.map (·.1)).map (fun id ↦ (id, (entries.lookup id).getD default)) = entries := by
  rw [List.map_map]
  conv_rhs => rw [← List.map_id entries]
  apply List.map_congr_left
  intro entry mem
  have found : entries.lookup entry.1 = some entry.2 := Table.find?_of_mem once mem
  rw [Function.comp_apply, found]
  rfl

end Entries

namespace Allocator

variable {a b : Allocator} {op : Operation} {ops : List Operation}
  {answer : Except Error (Option Plan)} {made : Option Plan} {plan : Plan}
  {filter : Option TargetType} {now : Instant} {settings : Settings} {t : Target}

theorem bounds_of_valid {low high : Float} (h : validBounds low high) :
    0.0 ≤ low ∧ low ≤ high ∧ high ≤ 1.0 := by
  simp only [validBounds, Bool.and_eq_true, decide_eq_true_eq, Bool.not_eq_true',
    decide_eq_false_iff_not] at h
  obtain ⟨⟨⟨⟨positive, small⟩, positive'⟩, small'⟩, ordered⟩ := h
  obtain ⟨v, least⟩ := Binary64.hasValue_of_bounds positive small
  obtain ⟨w, most⟩ := Binary64.hasValue_of_bounds positive' small'
  rw [Binary64.lt_iff most least, not_lt, ← Binary64.le_iff least most] at ordered
  exact ⟨positive, ordered, small'⟩

/-- A target is filed under its own name. -/
theorem target?_of_mem (distinct : a.IsDistinct) (mem : t ∈ a.targets) :
    a.target? t.id = some t := by
  obtain ⟨u, found⟩ := Option.isSome_iff_exists.1 (isSome_target? mem)
  have named : u.id == t.id := by
    have chosen := List.find?_some found
    exact chosen
  have held : u ∈ a.targets := List.mem_of_find?_eq_some found
  rw [found, List.inj_on_of_nodup_map distinct held mem (beq_iff_eq.1 named)]

/-! ## Answers -/

theorem ok_of_answer {result : Except Error Allocator}
    (h : some (result.map (·, none)) = some (.ok (b, made))) : result = .ok b := by
  cases result with
  | error => cases h
  | ok c =>
    cases h
    rfl

theorem makePlan?_of_answer (h : a.result? (.makePlan method filter now) = some (.ok (b, made))) :
    ∃ plan, made = some plan ∧ a.makePlan? method filter now = some (.ok (b, plan)) := by
  obtain ⟨result, planned, h⟩ := Option.map_eq_some_iff.1 h
  cases result with
  | error => cases h
  | ok outcome =>
    cases h
    exact ⟨outcome.2, rfl, planned⟩

theorem Reachable.result? (reached : a.Reachable) (h : a.result? op = some (.ok (b, made))) :
    b.Reachable := by
  cases op with
  | add t => exact reached.add (ok_of_answer h)
  | remove id =>
    cases h
    exact reached.remove id
  | setActive id active => exact reached.setActive (ok_of_answer h)
  | updatePerformance id returns now => exact reached.updatePerformance (ok_of_answer h)
  | makePlan method filter now =>
    obtain ⟨plan, -, planned⟩ := makePlan?_of_answer h
    exact reached.makePlan? planned
  | applyPlan plan => exact reached.applyPlan (ok_of_answer h)
  | setTotalCapital total =>
    cases h
    exact reached.setTotalCapital total

theorem history_add (h : a.add t = .ok b) : b.history = a.history := by
  obtain ⟨-, rfl⟩ := add_cases h
  rfl

/-- Only making a plan changes the history. -/
theorem history_result? (other : ∀ method filter now, op ≠ .makePlan method filter now)
    (h : a.result? op = some (.ok (b, made))) : b.history = a.history := by
  cases op with
  | add t => exact history_add (ok_of_answer h)
  | remove id =>
    cases h
    rfl
  | setActive id active => exact history_modify (ok_of_answer h)
  | updatePerformance id returns now => exact history_modify (ok_of_answer h)
  | makePlan method filter now => exact absurd rfl (other method filter now)
  | applyPlan plan => exact history_applyPlan (ok_of_answer h)
  | setTotalCapital total =>
    cases h
    rfl

/-! ## Planned shares -/

/-- A plan has a share for every target that it is made over. -/
theorem shares_names (reached : a.Reachable)
    (h : a.makePlan? method filter now = some (.ok (b, plan))) :
    plan.shares.map (·.1) = (a.selected filter).map (·.id) := by
  obtain ⟨planned, -⟩ := makePlan?_cases h
  obtain ⟨available, weights, amounts, shares, weighed, given, shared, -, -, listed⟩ :=
    planOver?_entries planned
  have bounded : ∀ t ∈ a.selected filter, t.IsBounded := by
    intro t mem
    exact reached.isBounded t (List.mem_of_mem_filter mem)
  have count : shares.length = (a.selected filter).length :=
    calc shares.length = amounts.length := (forall₂_of_mapM shared).length_eq.symm
      _ = weights.length := (forall₂_of_mapM given).length_eq.symm
      _ = (a.selected filter).length := (addUp_weights? bounded (selected_ne_nil h) weighed).1
  rw [listed]
  apply List.map_fst_zip
  rw [List.length_map, count]

/-- What making a plan changes: the planned shares of the targets that it is made over, and the
history, which ends with the plan. -/
theorem makePlan?_changes (reached : a.Reachable)
    (h : a.makePlan? method filter now = some (.ok (b, plan))) : ∃ share : Target → Float,
      plan.shares = (a.selected filter).map (fun t ↦ (t.id, share t)) ∧
        b = { a with
          targets := a.targets.map fun t ↦
            if t.active && hasType filter t then { t with plannedShare := share t } else t
          history := a.history ++ [plan] } := by
  have once := (makePlan?_named reached.isDistinct h).2.2
  have names := shares_names reached h
  obtain ⟨-, rfl⟩ := makePlan?_cases h
  refine ⟨fun t ↦ (plan.shares.lookup t.id).getD 0.0, ?_, ?_⟩
  · conv_lhs => rw [← map_lookup once 0.0, names, List.map_map]
    rfl
  · have changed : noteShares plan.shares a.targets = a.targets.map fun t ↦
        if t.active && hasType filter t then
          { t with plannedShare := (plan.shares.lookup t.id).getD 0.0 }
        else t := by
      apply List.map_congr_left
      intro t held
      cases chosen : t.active && hasType filter t with
      | true =>
        have selected : t ∈ a.selected filter := List.mem_filter.2 ⟨held, chosen⟩
        have shared : t.id ∈ plan.shares.map (·.1) := by
          rw [names]
          exact List.mem_map_of_mem selected
        obtain ⟨entry, mem, same⟩ := List.mem_map.1 shared
        have found : plan.shares.lookup t.id = some entry.2 := by
          rw [← same]
          exact Table.find?_of_mem once mem
        rw [found]
        rfl
      | false =>
        have absent : plan.shares.lookup t.id = none := by
          apply Table.find?_eq_none_of_not_mem
          intro shared
          rw [Table.names, names] at shared
          obtain ⟨u, selected, named⟩ := List.mem_map.1 shared
          obtain ⟨held', chosen'⟩ := List.mem_filter.1 selected
          rw [List.inj_on_of_nodup_map reached.isDistinct held' held named, chosen] at chosen'
          cases chosen'
        rw [absent]
        rfl
    rw [changed]

/-! ## Runs -/

/-- The allocator after an operation: that of its answer, or the one before it when it answers with
an error. -/
def after? (a : Allocator) (op : Operation) : Option Allocator :=
  (a.result? op).map fun
    | .ok (b, _) => b
    | .error _ => a

/-- The allocator after operations that are carried out one after another, however they end. -/
def carryOut? (a : Allocator) (ops : List Operation) : Option Allocator :=
  ops.foldlM after? a

theorem after?_cases (h : a.after? op = some b) :
    (∃ e, a.result? op = some (.error e) ∧ b = a) ∨
      ∃ made, a.result? op = some (.ok (b, made)) := by
  obtain ⟨result, answered, rfl⟩ := Option.map_eq_some_iff.1 h
  cases result with
  | error e => exact .inl ⟨e, answered, rfl⟩
  | ok outcome => exact .inr ⟨outcome.2, answered⟩

/-- The steps of an operation leave the allocator after it. -/
theorem after?_eq_steps (distinct : a.IsDistinct) (op : Operation) :
    a.after? op = (op.steps.run a).map (·.2) := by
  rw [Allocation.run_steps distinct, after?, Option.map_map]
  congr 1
  funext result
  cases result <;> rfl

/-- Steps end as the operation answers, and without an error they lead on. -/
theorem Reachable.run_steps (reached : a.Reachable) (h : op.steps.run a = some (answer, b)) :
    b.Reachable ∧ a.result? op = some (answer.map (b, ·)) ∧ ∀ e, answer = .error e → b = a := by
  rw [Allocation.run_steps reached.isDistinct] at h
  obtain ⟨result, answered, ended⟩ := Option.map_eq_some_iff.1 h
  cases result with
  | error e =>
    cases ended
    exact ⟨reached, answered, fun _ _ ↦ rfl⟩
  | ok outcome =>
    cases ended
    refine ⟨reached.result? answered, answered, ?_⟩
    rintro e ⟨⟩

theorem Reachable.after? (reached : a.Reachable) (h : a.after? op = some b) : b.Reachable := by
  obtain ⟨e, -, rfl⟩ | ⟨made, answered⟩ := after?_cases h
  · exact reached
  · exact reached.result? answered

theorem Reachable.carryOut? (reached : a.Reachable) (h : a.carryOut? ops = some b) :
    b.Reachable := by
  induction ops generalizing a with
  | nil =>
    cases h
    exact reached
  | cons op ops ih =>
    obtain ⟨between, stepped, h⟩ := Option.bind_eq_some_iff.1 h
    exact ih (reached.after? stepped) h

/-- After any operations on an allocator without targets, an operation that ends in an error leaves
the allocator as it was, although its steps write targets one by one.  A plan that is made is added
to the history, and nothing else changes but the planned shares of the targets that it is made over.
No other operation changes the history.  Every target is filed under its name with ordered bounds
between zero and one, so that every method has weights for any of the targets and limits each weight
by bounds that are ordered. -/
theorem operations_are_atomic (before : (new settings).carryOut? ops = some a)
    (h : op.steps.run a = some (answer, b)) :
    (a.result? op = some (answer.map (b, ·)) ∧ ∀ e, answer = .error e → b = a) ∧
      (∀ method filter now, op = .makePlan method filter now → ∀ made, answer = .ok made →
        ∃ (plan : Plan) (share : Target → Float), made = some plan ∧
          plan.shares = (a.selected filter).map (fun t ↦ (t.id, share t)) ∧
          b = { a with
            targets := a.targets.map fun t ↦
              if t.active && hasType filter t then { t with plannedShare := share t } else t
            history := a.history ++ [plan] }) ∧
      ((∀ method filter now, op ≠ .makePlan method filter now) → b.history = a.history) ∧
      (∀ t ∈ b.targets, b.target? t.id = some t ∧
        0.0 ≤ t.minShare ∧ t.minShare ≤ t.maxShare ∧ t.maxShare ≤ 1.0) ∧
      ∀ targets ⊆ b.targets, (∀ method, (weights? method targets).isSome) ∧
        ∀ t ∈ targets, (∀ x, (Binary64.clamp? x t.minShare t.maxShare).isSome) ∧
          Binary64.clamp? (finiteOr t.figures.sharpeRatio 0.0 / 10.0) 0.01 0.25 =
            some (kellyWeight t) := by
  have reached := (Reachable.new settings).carryOut? before
  obtain ⟨reached', answered, kept⟩ := reached.run_steps h
  have bounds : ∀ t ∈ b.targets, 0.0 ≤ t.minShare ∧ t.minShare ≤ t.maxShare ∧ t.maxShare ≤ 1.0 :=
    fun t mem ↦ bounds_of_valid (reached'.isValid t mem)
  refine ⟨⟨answered, kept⟩, ?_, ?_, ?_, ?_⟩
  · rintro method filter now rfl made rfl
    obtain ⟨plan, planned, made⟩ := makePlan?_of_answer answered
    obtain ⟨share, shares, changed⟩ := makePlan?_changes reached made
    exact ⟨plan, share, planned, shares, changed⟩
  · intro other
    cases answer with
    | error e => rw [kept e rfl]
    | ok made => exact history_result? other answered
  · intro t mem
    exact ⟨target?_of_mem reached'.isDistinct mem, bounds t mem⟩
  · intro targets subset
    have ordered : ∀ t ∈ targets, t.minShare ≤ t.maxShare :=
      fun t mem ↦ (bounds t (subset mem)).2.1
    exact ⟨isSome_weights? ordered, fun t mem ↦
      ⟨isSome_clamp? (ordered t mem), clamp?_kellyWeight t⟩⟩

/-- A plan for a target that exists and one that does not. -/
def halfKnown : Plan :=
  { createdAt := Instant.epoch
    method := .equalWeight
    totalCapital := Decimal.const 10 0
    reserveCapital := Decimal.zero
    allocations := [("a", Decimal.const 5 0), ("c", Decimal.const 5 0)]
    shares := [("a", 0.5), ("c", 0.5)]
    expectedReturn := 0.0
    expectedVolatility := 0.0
    expectedSharpe := 0.0
    diversification := 1.0
    moves := [] }

/-- What operations say at their end: the message of an error, or nothing without one. -/
def saidAfter? (ops : List Operation) (op : Operation) : Option (Option String) := do
  let a ← (new Settings.standard).carryOut? ops
  let (answer, _) ← op.steps.run a
  match answer with
  | .ok _ => some none
  | .error e => some (some e.message)

theorem exists_of_saidAfter? {said : Option String} (h : saidAfter? ops op = some said) :
    ∃ a b answer, (new Settings.standard).carryOut? ops = some a ∧
      op.steps.run a = some (answer, b) ∧
      match answer with
      | .ok _ => said = none
      | .error e => said = some e.message := by
  obtain ⟨a, before, h⟩ := Option.bind_eq_some_iff.1 h
  obtain ⟨⟨answer, b⟩, ended, h⟩ := Option.bind_eq_some_iff.1 h
  refine ⟨a, b, answer, before, ended, ?_⟩
  cases answer with
  | ok => exact (Option.some.inj h).symm
  | error => exact (Option.some.inj h).symm

/-- Two targets are added and a plan is made over them, which is the history then.  Applying a plan
that names a third target fails without setting the capital of the first one. -/
theorem operations_are_atomic_halfKnown : ∃ a b c : Allocator, ∃ plan : Plan, ∃ e : Error,
    (new Settings.standard).carryOut? [.add (idle "a" .strategy 1.0), .add (idle "b" .broker 2.0)] =
        some a ∧
      (Operation.makePlan .sharpeWeighted none Instant.epoch).steps.run a =
        some (.ok (some plan), b) ∧
      b.history = a.history ++ [plan] ∧ b.settings = a.settings ∧
      (Operation.applyPlan halfKnown (by decide)).steps.run b = some (.error e, c) ∧
      e.message = "Unknown allocation target: c" ∧ c = b := by
  let adds : List Operation := [.add (idle "a" .strategy 1.0), .add (idle "b" .broker 2.0)]
  let plans : Operation := .makePlan .sharpeWeighted none Instant.epoch
  have planned : saidAfter? adds plans = some none := by decide +kernel
  have failed : saidAfter? (adds ++ [plans]) (.applyPlan halfKnown (by decide)) =
      some (some "Unknown allocation target: c") := by decide +kernel
  obtain ⟨a, b, answer, before, ended, ok⟩ := exists_of_saidAfter? planned
  obtain ⟨b', c, answer', before', ended', wrong⟩ := exists_of_saidAfter? failed
  have same : some b' = some b := by
    rw [← before', carryOut?, List.foldlM_append]
    change ((new Settings.standard).carryOut? adds >>= _) = _
    have reached := (Reachable.new Settings.standard).carryOut? before
    rw [before, Option.bind_eq_bind, Option.bind_some, List.foldlM_cons,
      after?_eq_steps reached.isDistinct, ended]
    rfl
  cases same
  cases answer with
  | error => cases ok
  | ok made =>
    cases answer' with
    | ok => cases wrong
    | error e =>
      obtain ⟨-, makes, -⟩ := operations_are_atomic before ended
      obtain ⟨⟨-, kept⟩, -⟩ := operations_are_atomic before' ended'
      obtain ⟨plan, share, rfl, -, rfl⟩ := makes _ _ _ rfl made rfl
      exact ⟨a, _, c, plan, e, before, ended, rfl, rfl, ended', (Option.some.inj wrong).symm,
        kept e rfl⟩

end Allocator

end TradingDesk.Allocation
