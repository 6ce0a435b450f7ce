import TradingDesk.Proofs.Allocation.Planning

/-!
# Moves of Capital

The moves of a plan lead from the plan before it, and from the capital that targets hold when there
is none.  As long as every plan is applied when it is made, a target that the previous plan funded
holds what that plan gave it, so for such a target the moves start from the capital it holds.  A
target that the previous plan left out counts as empty, whatever it holds from earlier plans.

Applying a plan takes every target that it funds to where its moves lead, and the targets for which
no move is listed stay within the threshold of where the moves would have started.
-/

namespace TradingDesk.Allocation

/-- Whether an amount is at most a bound away from another one. -/
def IsWithin (bound x y : Decimal) : Prop :=
  ∃ delta, Decimal.sub? y x = some delta ∧ delta.abs ≤ bound

namespace Allocator

variable {a b c d : Allocator} {method : Method} {filter : Option TargetType} {now : Instant}
  {plan prev : Plan} {id : String} {allocations : List (String × Decimal)}

/-! ## The moves that a plan lists -/

/-- What is small enough not to be moved. -/
def threshold? (a : Allocator) : Option Decimal :=
  Decimal.mul? a.budget (toDecimal (Binary64.max a.settings.rebalanceThreshold 0.0))

theorem move?_none {threshold : Decimal} (h : a.move? allocations threshold id = some none) :
    IsWithin threshold (a.startCapital id) ((allocations.lookup id).getD Decimal.zero) := by
  obtain ⟨delta, moved, h⟩ := Option.bind_eq_some_iff.1 h
  split at h
  · rename_i small
    exact ⟨delta, moved, small⟩
  · cases h

theorem move?_some {threshold : Decimal} {move : Move}
    (h : a.move? allocations threshold id = some (some move)) :
    move.target = id ∧ move.fromCapital = a.startCapital id ∧
      move.toCapital = (allocations.lookup id).getD Decimal.zero := by
  obtain ⟨delta, moved, h⟩ := Option.bind_eq_some_iff.1 h
  split at h
  · cases h
  · cases h
    exact ⟨rfl, rfl, rfl⟩

theorem mem_movable_of_funds (a : Allocator) (filter : Option TargetType)
    (funded : plan.Funds id) : id ∈ a.movable plan.allocations filter := by
  have entry := mem_of_lookup funded.lookup
  rw [movable, mem_inOrder]
  apply List.mem_append_left
  exact List.mem_map.2 ⟨_, entry, rfl⟩

/-- Every move starts where moves start and leads to what its target gets. -/
theorem moves?_ends {moves : List Move} {move : Move}
    (h : a.moves? allocations filter = some moves) (mem : move ∈ moves) :
    move.target ∈ a.movable allocations filter ∧ move.fromCapital = a.startCapital move.target ∧
      move.toCapital = (allocations.lookup move.target).getD Decimal.zero := by
  obtain ⟨threshold, -, h⟩ := Option.bind_eq_some_iff.1 h
  obtain ⟨found, listed, h⟩ := Option.bind_eq_some_iff.1 h
  cases h
  obtain ⟨move?, listedMove, rfl⟩ := List.mem_filterMap.1 mem
  obtain ⟨id, movable, decided⟩ := exists_source_of_mem (forall₂_of_mapM listed) listedMove
  obtain ⟨rfl, start, goal⟩ := move?_some decided
  exact ⟨movable, start, goal⟩

/-- A target without a move gets about what its move would have started from. -/
theorem moves?_within {moves : List Move} {threshold : Decimal}
    (h : a.moves? allocations filter = some moves) (bound : a.threshold? = some threshold)
    (movable : id ∈ a.movable allocations filter) (unmoved : ∀ move ∈ moves, move.target ≠ id) :
    IsWithin threshold (a.startCapital id) ((allocations.lookup id).getD Decimal.zero) := by
  obtain ⟨bound', same, h⟩ := Option.bind_eq_some_iff.1 h
  obtain rfl : bound' = threshold := Option.some.inj (same.symm.trans bound)
  obtain ⟨found, listed, h⟩ := Option.bind_eq_some_iff.1 h
  cases h
  obtain ⟨move?, mem, decided⟩ := exists_image_of_mem (forall₂_of_mapM listed) movable
  cases move? with
  | none => exact move?_none decided
  | some move =>
    have same : move.target = id := (move?_some decided).1
    exact absurd same (unmoved move (List.mem_filterMap.2 ⟨some move, mem, rfl⟩))

/-! ## Plans that are applied when they are made -/

/-- Whether targets hold what the latest plan gave them. -/
def Holds (a : Allocator) : Prop :=
  ∀ prev ∈ a.history.getLast?, ∀ id, prev.Funds id → a.capital? id = some (prev.capitalOf id)

theorem holds_of_no_history (h : a.history = []) : a.Holds := by
  intro prev latest
  rw [h] at latest
  cases latest

theorem run?_holds {calls : List Call} (start : a.Holds) (h : a.run? calls = some b) :
    b.Holds := by
  apply run?_preserves _ _ start h
  · intro a b id f same changed holds prev latest target funded
    rw [history_modify changed] at latest
    rw [capital?_modify same changed]
    exact holds prev latest target funded
  · intro a b c method filter now plan made applied _ prev latest target funded
    rw [history_applyPlan applied, history_makePlan? made] at latest
    cases latest
    exact capital?_applyPlan_of_funds funded applied

/-- Whether the latest plan, if there is one, gives capital to a target. -/
def Tracks (a : Allocator) (id : String) : Prop :=
  ∀ prev ∈ a.history.getLast?, prev.Funds id

/-- Moves start from the capital of a target that the latest plan funded. -/
theorem capital?_of_tracks (holds : a.Holds) (tracked : a.Tracks id)
    (known : (a.capital? id).isSome) : a.capital? id = some (a.startCapital id) := by
  obtain ⟨held, found⟩ := Option.isSome_iff_exists.1 known
  unfold startCapital
  cases latest : a.history.getLast? with
  | none =>
    have start : ((a.target? id).map (·.currentCapital)).getD Decimal.zero = held := by
      change (a.capital? id).getD Decimal.zero = held
      rw [found]
      rfl
    rw [start, found]
  | some prev => exact holds prev latest id (tracked prev latest)

theorem startCapital_of_prev (latest : prev ∈ a.history.getLast?) (id : String) :
    a.startCapital id = prev.capitalOf id := by
  rw [startCapital, latest]

/-- The target of a move exists. -/
theorem known_of_movable (made : a.makePlan? method filter now = some (.ok (b, plan)))
    (movable : id ∈ a.movable plan.allocations filter) : (a.capital? id).isSome := by
  rw [Allocator.movable, mem_inOrder] at movable
  rcases List.mem_append.1 movable with funded | dropped
  · obtain ⟨c, applied⟩ := exists_applyPlan made
    obtain ⟨known, -⟩ := applyPlan_cases applied
    obtain ⟨entry, mem, rfl⟩ := List.mem_map.1 funded
    rw [← capital?_makePlan? made, capital?, Option.isSome_map]
    exact known entry mem
  · rw [capital?, Option.isSome_map]
    split at dropped
    · exact absurd dropped List.not_mem_nil
    · have covered := (List.mem_filter.1 dropped).2
      cases found : a.target? id with
      | none => simp [found] at covered
      | some t => rfl

/-- How a plan is carried out that is made over `a`, applied to `b` and leads to `c`. -/
structure CarriesOut (a b c : Allocator) (plan : Plan) (threshold : Decimal) : Prop where
  /-- A funded target ends where its move leads. -/
  reached : ∀ move ∈ plan.moves, plan.Funds move.target →
    c.capital? move.target = some move.toCapital
  /-- A move starts from what its target holds, when the previous plan funded it. -/
  left : ∀ move ∈ plan.moves, a.Tracks move.target →
    b.capital? move.target = some move.fromCapital
  /-- A move starts from what the previous plan gave, if there is one. -/
  followed : ∀ move ∈ plan.moves, ∀ prev ∈ a.history.getLast?,
    move.fromCapital = prev.capitalOf move.target
  /-- A target that is neither funded nor moved keeps what it holds. -/
  kept : ∀ id, (∀ move ∈ plan.moves, move.target ≠ id) → ¬ plan.Funds id →
    c.capital? id = b.capital? id
  /-- A target that is funded without a move stays within the threshold. -/
  stayed : ∀ id, (∀ move ∈ plan.moves, move.target ≠ id) → plan.Funds id →
    ∃ held reached, b.capital? id = some held ∧ c.capital? id = some reached ∧
      (a.Tracks id → IsWithin threshold held reached) ∧
      ∀ prev ∈ a.history.getLast?, IsWithin threshold (prev.capitalOf id) reached

/-- Every plan over targets that were added before the first one is carried out, when all plans are
applied as soon as they are made. -/
theorem plans_are_carried_out {calls : List Call} (fresh : a.history = [])
    (run : a.run? calls = some b) (made : b.makePlan? method filter now = some (.ok (c, plan))) :
    ∃ d threshold, c.applyPlan plan = .ok d ∧ b.threshold? = some threshold ∧
      CarriesOut b c d plan threshold := by
  have holds := run?_holds (holds_of_no_history fresh) run
  obtain ⟨d, applied⟩ := exists_applyPlan made
  obtain ⟨planned, -⟩ := makePlan?_cases made
  obtain ⟨available, weights, amounts, parts⟩ := planOver?_parts planned
  obtain ⟨threshold, bound, -⟩ := Option.bind_eq_some_iff.1 parts.moved
  refine ⟨d, threshold, applied, bound, ?_⟩
  constructor
  case reached =>
    intro move mem funded
    rw [capital?_applyPlan_of_funds funded applied, (moves?_ends parts.moved mem).2.2]
    rfl
  case left =>
    intro move mem tracked
    obtain ⟨movable, start, -⟩ := moves?_ends parts.moved mem
    rw [capital?_makePlan? made, start]
    exact capital?_of_tracks holds tracked (known_of_movable made movable)
  case followed =>
    intro move mem prev latest
    rw [(moves?_ends parts.moved mem).2.1, startCapital_of_prev latest]
  case kept =>
    intro id _ unfunded
    have absent := Option.not_isSome_iff_eq_none.1 unfunded
    rw [capital?_applyPlan applied, absent]
    exact Option.map_id'
  case stayed =>
    intro id unmoved funded
    have movable := mem_movable_of_funds b filter funded
    have near := moves?_within parts.moved bound movable unmoved
    obtain ⟨held, found⟩ := Option.isSome_iff_exists.1 (known_of_movable made movable)
    refine ⟨held, plan.capitalOf id, ?_, capital?_applyPlan_of_funds funded applied, ?_, ?_⟩
    · rw [capital?_makePlan? made, found]
    · intro tracked
      have start := capital?_of_tracks holds tracked (known_of_movable made movable)
      rw [found] at start
      cases start
      exact near
    · intro prev latest
      rw [← startCapital_of_prev latest]
      exact near

/-! ## Plans of one kind after the other -/

/-- A weak strategy, a broker and a strong strategy. -/
def twoKinds : Allocator :=
  { Allocator.new Settings.standard with
    targets := [idle "a" .strategy 0.0, idle "b" .broker 0.0, idle "c" .strategy 3.0] }

/-- A plan that divides the capital between the strategies, and one that gives it to the broker,
which is then switched off. -/
def bothKinds : List Call :=
  [.plan .equalWeight (some .strategy) Instant.epoch,
    .plan .equalWeight (some .broker) Instant.epoch, .setActive "b" false]

theorem twoKinds_added :
    [idle "c" .strategy 3.0, idle "a" .strategy 0.0, idle "b" .broker 0.0].foldlM add
      (Allocator.new Settings.standard) = .ok twoKinds := by
  rfl

/-- The moves of the next plan, and the capital of the targets before and after it is applied. -/
def nextPlan? (a : Allocator) : Option (List Move × List (Option Decimal)) :=
  (a.makePlan? .kelly none Instant.epoch).bind fun
    | .ok (b, plan) => (b.applyPlan plan).toOption.map fun c ↦
      (plan.moves, ["a", "b", "c"].map b.capital? ++ ["a", "b", "c"].map c.capital?)
    | .error _ => none

/-- The moves after both kinds of plans: the broker is drained, and the strong strategy starts from
nothing. -/
def movesAfter : List Move :=
  [⟨"b", Decimal.const 90000 1, Decimal.zero, (Decimal.const 90000 1).neg, .decrease⟩,
    ⟨"c", Decimal.zero, Decimal.const 225000 2, Decimal.const 225000 2, .increase⟩]

/-- The strong strategy holds 4500 before the plan, the weak one falls from 4500 to 90, and the
broker keeps 9000. -/
theorem bothKinds_run : ∃ b c d plan,
    twoKinds.run? bothKinds = some b ∧
      b.makePlan? .kelly none Instant.epoch = some (.ok (c, plan)) ∧ c.applyPlan plan = .ok d ∧
      b.threshold? = some (Decimal.const 50000 2) ∧ plan.moves = movesAfter ∧
      c.capital? "c" = some (Decimal.const 450000 2) ∧
      c.capital? "a" = some (Decimal.const 450000 2) ∧
      d.capital? "a" = some (Decimal.const 9000 2) ∧
      d.capital? "b" = some (Decimal.const 90000 1) := by
  have ran : (twoKinds.run? bothKinds).any (fun b ↦
      b.threshold? == some (Decimal.const 50000 2) && b.nextPlan? == some (movesAfter,
        [some (Decimal.const 450000 2), some (Decimal.const 90000 1),
          some (Decimal.const 450000 2), some (Decimal.const 9000 2),
          some (Decimal.const 90000 1), some (Decimal.const 225000 2)])) := by
    decide +kernel
  obtain ⟨b, run, ran⟩ := (Option.any_eq_true _ _).1 ran
  obtain ⟨bound, after⟩ := (Bool.and_eq_true _ _).mp ran
  obtain ⟨made, planned, applied⟩ := Option.bind_eq_some_iff.1 (eq_of_beq after)
  cases made with
  | error => cases applied
  | ok made =>
    obtain ⟨c, plan⟩ := made
    obtain ⟨d, result, listed⟩ := Option.map_eq_some_iff.1 applied
    have reached : c.applyPlan plan = .ok d := by
      cases answer : c.applyPlan plan with
      | error => rw [answer] at result; cases result
      | ok d' => rw [answer] at result; cases result; rfl
    simp only [List.map_cons, List.map_nil, List.cons_append, List.nil_append, Prod.mk.injEq,
      List.cons.injEq, and_true] at listed
    obtain ⟨moves, weak, -, strong, weak', broker', -⟩ := listed
    exact ⟨b, c, d, plan, run, planned, reached, eq_of_beq bound, moves, strong, weak, weak',
      broker'⟩

/-- A move can start from another amount than its target holds and lead to another one than it holds
afterwards, and a target without a move can change by more than the threshold. -/
theorem moves_can_ignore_capital : ∃ b c d plan threshold,
    [idle "c" .strategy 3.0, idle "a" .strategy 0.0, idle "b" .broker 0.0].foldlM add
        (Allocator.new Settings.standard) = .ok twoKinds ∧
      twoKinds.run? bothKinds = some b ∧
      b.makePlan? .kelly none Instant.epoch = some (.ok (c, plan)) ∧ c.applyPlan plan = .ok d ∧
      b.threshold? = some threshold ∧
      (∃ move ∈ plan.moves, c.capital? move.target ≠ some move.fromCapital) ∧
      (∃ move ∈ plan.moves, d.capital? move.target ≠ some move.toCapital) ∧
      ∃ id held reached, (∀ move ∈ plan.moves, move.target ≠ id) ∧ c.capital? id = some held ∧
        d.capital? id = some reached ∧ ¬ IsWithin threshold held reached := by
  obtain ⟨b, c, d, plan, run, made, applied, bound, moves, strong, weak, weak', broker'⟩ :=
    bothKinds_run
  refine ⟨b, c, d, plan, _, twoKinds_added, run, made, applied, bound, ?started, ?ended, "a", _, _,
    ?unmoved, weak, weak', ?far⟩
  case started =>
    rw [moves]
    refine ⟨_, List.mem_cons_of_mem _ List.mem_cons_self, ?_⟩
    rw [strong]
    decide +kernel
  case ended =>
    rw [moves]
    refine ⟨_, List.mem_cons_self, ?_⟩
    rw [broker']
    decide +kernel
  case unmoved =>
    rw [moves]
    decide +kernel
  case far =>
    rintro ⟨delta, moved, small⟩
    have moved' : Decimal.sub? (Decimal.const 9000 2) (Decimal.const 450000 2) =
        some (Decimal.const 441000 2).neg := by
      decide +kernel
    obtain rfl : delta = (Decimal.const 441000 2).neg := Option.some.inj (moved.symm.trans moved')
    revert small
    decide +kernel

/-- The plan over both kinds is carried out, as far as the plan over brokers tells. -/
theorem plans_are_carried_out_bothKinds : ∃ b c d plan threshold,
    twoKinds.run? bothKinds = some b ∧
      b.makePlan? .kelly none Instant.epoch = some (.ok (c, plan)) ∧
      c.applyPlan plan = .ok d ∧ b.threshold? = some threshold ∧
      CarriesOut b c d plan threshold := by
  obtain ⟨b, c, d, plan, run, made, -⟩ := bothKinds_run
  obtain ⟨d, threshold, applied, bound, carried⟩ := plans_are_carried_out rfl run made
  exact ⟨b, c, d, plan, threshold, run, made, applied, bound, carried⟩

end Allocator

end TradingDesk.Allocation
