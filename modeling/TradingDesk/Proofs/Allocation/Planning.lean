import Mathlib.Data.List.Forall2
import Mathlib.Tactic.Common
import TradingDesk.Allocation.Allocator

/-!
# Making and Applying Plans

A plan is put together from parts that are computed one after another, and a plan exists only when
every part does.  Applying a plan sets the capital of the targets that it funds and leaves the other
targets alone; a plan that was just made can always be applied, because it funds targets that exist.

Between plans, targets are switched on and off and their performance is brought up to date.  Neither
moves capital.
-/

namespace TradingDesk.Allocation

/-- Every element of the result of a `mapM` comes from the element at its place. -/
theorem forall₂_of_mapM {α β : Type} {f : α → Option β} {xs : List α} {ys : List β}
    (h : xs.mapM f = some ys) : List.Forall₂ (fun x y ↦ f x = some y) xs ys := by
  induction xs generalizing ys with
  | nil =>
    cases h
    exact List.Forall₂.nil
  | cons x xs ih =>
    rw [List.mapM_cons] at h
    obtain ⟨y, first, h⟩ := Option.bind_eq_some_iff.1 h
    obtain ⟨rest, others, h⟩ := Option.bind_eq_some_iff.1 h
    cases h
    exact List.Forall₂.cons first (ih others)

section Pairs

variable {α β : Type} {R : α → β → Prop} {xs : List α} {ys : List β} {x : α} {y : β}

theorem exists_source_of_mem (h : List.Forall₂ R xs ys) (mem : y ∈ ys) : ∃ x ∈ xs, R x y := by
  obtain ⟨i, bound, rfl⟩ := List.mem_iff_getElem.1 mem
  have bound' : i < xs.length := by
    rw [h.length_eq]
    exact bound
  exact ⟨xs[i], List.getElem_mem bound', h.get bound' bound⟩

theorem exists_image_of_mem (h : List.Forall₂ R xs ys) (mem : x ∈ xs) : ∃ y ∈ ys, R x y :=
  exists_source_of_mem h.flip mem

end Pairs

theorem mem_of_lookup {α : Type} {entries : List (String × α)} {id : String} {x : α}
    (h : entries.lookup id = some x) : (id, x) ∈ entries := by
  obtain ⟨before, after, rfl, -⟩ := List.lookup_eq_some_iff.1 h
  exact List.mem_append_right before List.mem_cons_self

theorem mem_insertName {name id : String} {names : List String} :
    id ∈ Allocator.insertName name names ↔ id = name ∨ id ∈ names := by
  induction names with
  | nil => simp [Allocator.insertName]
  | cons other rest ih =>
    unfold Allocator.insertName
    split
    · exact List.mem_cons
    · rw [List.mem_cons, ih, List.mem_cons]
      exact or_left_comm

theorem mem_inOrder {id : String} {names : List String} :
    id ∈ Allocator.inOrder names ↔ id ∈ names := by
  induction names with
  | nil => rfl
  | cons name names ih =>
    have step : Allocator.inOrder (name :: names) =
        Allocator.insertName name (Allocator.inOrder names) := rfl
    rw [step, mem_insertName, ih, List.mem_cons]

namespace Plan

/-- Whether a plan gives capital to a target. -/
def Funds (p : Plan) (id : String) : Prop :=
  (p.allocations.lookup id).isSome

theorem Funds.lookup {p : Plan} {id : String} (h : p.Funds id) :
    p.allocations.lookup id = some (p.capitalOf id) := by
  obtain ⟨capital, found⟩ := Option.isSome_iff_exists.1 h
  rw [capitalOf, found]
  rfl

end Plan

namespace Allocator

variable {a b c : Allocator} {targets : List Target} {method : Method}
  {filter : Option TargetType} {now : Instant} {plan : Plan} {id : String}

/-- A target without capital and history, with a ratio of return to risk and any share. -/
def idle (id : String) (type : TargetType) (ratio : Float) : Target :=
  ⟨id, type, ⟨Instant.epoch, { Performance.zero with sharpeRatio := ratio }⟩, Decimal.zero, 0.0,
    0.0, 1.0, true, []⟩

/-! ## The parts of a plan -/

/-- What the parts of a plan over given targets are. -/
structure Plans (a : Allocator) (targets : List Target) (method : Method)
    (filter : Option TargetType) (plan : Plan) (available : Decimal) (weights : List Float)
    (amounts : List Decimal) : Prop where
  total : plan.totalCapital = a.budget
  reserved : a.reserve? = some plan.reserveCapital
  rest : Decimal.sub? a.budget plan.reserveCapital = some available
  weighed : weights? method targets = some weights
  shared : amounts? available weights = some amounts
  funded : plan.allocations = (targets.map (·.id)).zip amounts
  moved : a.moves? plan.allocations filter = some plan.moves

theorem planOver?_parts (h : a.planOver? targets method filter now = some plan) :
    ∃ available weights amounts, a.Plans targets method filter plan available weights amounts := by
  obtain ⟨reserve, reserved, h⟩ := Option.bind_eq_some_iff.1 h
  obtain ⟨available, rest, h⟩ := Option.bind_eq_some_iff.1 h
  obtain ⟨weights, weighed, h⟩ := Option.bind_eq_some_iff.1 h
  obtain ⟨amounts, shared, h⟩ := Option.bind_eq_some_iff.1 h
  obtain ⟨shares, -, h⟩ := Option.bind_eq_some_iff.1 h
  obtain ⟨moves, moved, h⟩ := Option.bind_eq_some_iff.1 h
  cases h
  exact ⟨available, weights, amounts, rfl, reserved, rest, weighed, shared, rfl, moved⟩

theorem makePlan?_cases (h : a.makePlan? method filter now = some (.ok (b, plan))) :
    a.planOver? (a.selected filter) method filter now = some plan ∧
      b = { a with
        targets := noteShares plan.shares a.targets, history := a.history ++ [plan] } := by
  rw [makePlan?] at h
  split at h
  · cases h
  · obtain ⟨made, planned, h⟩ := Option.bind_eq_some_iff.1 h
    cases h
    exact ⟨planned, rfl⟩

/-! ## The capital of targets -/

/-- The capital that a target holds. -/
def capital? (a : Allocator) (id : String) : Option Decimal :=
  (a.target? id).map (·.currentCapital)

/-- A change of targets that keeps names and capital. -/
theorem capital?_map {f : Target → Target}
    (same : ∀ t, (f t).id = t.id ∧ (f t).currentCapital = t.currentCapital) :
    { a with targets := a.targets.map f }.capital? id = a.capital? id := by
  have names : ((fun t : Target ↦ t.id == id) ∘ f) = fun t ↦ t.id == id := by
    funext t
    simp only [Function.comp_apply, (same t).1]
  have amounts : ((fun t : Target ↦ t.currentCapital) ∘ f) = fun t ↦ t.currentCapital := by
    funext t
    exact (same t).2
  simp only [capital?, target?, List.find?_map, Option.map_map, names, amounts]

theorem add_cases {t : Target} (h : a.add t = .ok b) : validBounds t.minShare t.maxShare ∧
    b = { a with
      targets := insertTarget ({ t with returns := [] }.pushReturns t.returns) a.targets } := by
  unfold add at h
  split at h
  · rename_i valid
    cases h
    exact ⟨valid, rfl⟩
  · cases h

theorem modify_cases {f : Target → Target} (h : a.modify id f = .ok b) :
    (a.target? id).isSome ∧
      b = { a with targets := a.targets.map fun t ↦ if t.id == id then f t else t } := by
  unfold modify at h
  split at h
  · cases h
  · rename_i known
    cases h
    rw [known]
    exact ⟨rfl, rfl⟩

theorem capital?_modify {f : Target → Target}
    (same : ∀ t, (f t).id = t.id ∧ (f t).currentCapital = t.currentCapital)
    (h : a.modify id f = .ok b) (other : String) : b.capital? other = a.capital? other := by
  obtain ⟨-, rfl⟩ := modify_cases h
  apply capital?_map
  intro t
  split
  · exact same t
  · exact ⟨rfl, rfl⟩

theorem history_modify {f : Target → Target} (h : a.modify id f = .ok b) :
    b.history = a.history := by
  obtain ⟨-, rfl⟩ := modify_cases h
  rfl

/-- Making a plan moves no capital. -/
theorem capital?_makePlan? (h : a.makePlan? method filter now = some (.ok (b, plan)))
    (id : String) : b.capital? id = a.capital? id := by
  obtain ⟨-, rfl⟩ := makePlan?_cases h
  apply capital?_map
  intro t
  split <;> exact ⟨rfl, rfl⟩

theorem history_makePlan? (h : a.makePlan? method filter now = some (.ok (b, plan))) :
    b.history.getLast? = some plan := by
  obtain ⟨-, rfl⟩ := makePlan?_cases h
  exact List.getLast?_concat

/-! ## Applying plans -/

theorem applyPlan_cases (h : a.applyPlan plan = .ok b) :
    (∀ entry ∈ plan.allocations, (a.target? entry.1).isSome) ∧
      b = { a with targets := a.targets.map fun t ↦
        match plan.allocations.lookup t.id with
        | some capital => { t with currentCapital := capital }
        | none => t } := by
  unfold applyPlan at h
  split at h
  · cases h
  · rename_i all
    cases h
    refine ⟨?_, rfl⟩
    intro entry mem
    have present : ¬ (a.target? entry.1).isNone := List.find?_eq_none.1 all entry mem
    exact Option.isNone_eq_false_iff.1 (Bool.not_eq_true _ ▸ present)

theorem history_applyPlan (h : a.applyPlan plan = .ok b) : b.history = a.history := by
  obtain ⟨-, rfl⟩ := applyPlan_cases h
  rfl

/-- Targets that a plan funds hold what it gives them, the others what they held before. -/
theorem capital?_applyPlan (h : a.applyPlan plan = .ok b) (id : String) :
    b.capital? id =
      (a.capital? id).map fun held ↦ (plan.allocations.lookup id).getD held := by
  obtain ⟨-, rfl⟩ := applyPlan_cases h
  have names (t : Target) : (match plan.allocations.lookup t.id with
      | some capital => { t with currentCapital := capital }
      | none => t).id = t.id := by
    split <;> rfl
  have found : ((fun t : Target ↦ t.id == id) ∘ fun t ↦
      match plan.allocations.lookup t.id with
      | some capital => { t with currentCapital := capital }
      | none => t) = fun t ↦ t.id == id := by
    funext t
    rw [Function.comp_apply, names]
  simp only [capital?, target?, List.find?_map, Option.map_map, found]
  cases held : a.targets.find? (fun t ↦ t.id == id) with
  | none => rfl
  | some t =>
    have same : t.id = id := by
      have found := List.find?_some held
      exact beq_iff_eq.1 found
    simp only [Option.map_some, Function.comp_apply, same]
    cases plan.allocations.lookup id <;> rfl

theorem capital?_applyPlan_of_funds (funded : plan.Funds id) (h : a.applyPlan plan = .ok b) :
    b.capital? id = some (plan.capitalOf id) := by
  obtain ⟨known, -⟩ := applyPlan_cases h
  have entry : (id, plan.capitalOf id) ∈ plan.allocations := mem_of_lookup funded.lookup
  have held : (a.capital? id).isSome := by
    rw [capital?, Option.isSome_map]
    exact known _ entry
  obtain ⟨x, held⟩ := Option.isSome_iff_exists.1 held
  rw [capital?_applyPlan h, held, funded.lookup]
  rfl

theorem isSome_target? {t : Target} (mem : t ∈ a.targets) : (a.target? t.id).isSome := by
  rw [target?, List.find?_isSome]
  exact ⟨t, mem, beq_self_eq_true t.id⟩

/-- A plan that was just made can be applied. -/
theorem exists_applyPlan (h : a.makePlan? method filter now = some (.ok (b, plan))) :
    ∃ c, b.applyPlan plan = .ok c := by
  obtain ⟨planned, made⟩ := makePlan?_cases h
  obtain ⟨available, weights, amounts, parts⟩ := planOver?_parts planned
  have known : ∀ entry ∈ plan.allocations, (b.target? entry.1).isSome := by
    intro entry mem
    rw [parts.funded] at mem
    have named : entry.1 ∈ (a.selected filter).map (·.id) := (List.of_mem_zip mem).1
    obtain ⟨t, chosen, same⟩ := List.mem_map.1 named
    have held : (b.capital? t.id).isSome := by
      rw [capital?_makePlan? h, capital?, Option.isSome_map]
      exact isSome_target? (List.mem_of_mem_filter chosen)
    rwa [capital?, Option.isSome_map, same] at held
  have all : plan.allocations.find? (fun entry ↦ (b.target? entry.1).isNone) = none := by
    apply List.find?_eq_none.2
    intro entry mem
    rw [Option.isNone_eq_false_iff.2 (known entry mem)]
    exact Bool.false_ne_true
  unfold applyPlan
  split
  · rename_i unknown
    exact absurd (all.symm.trans unknown) (Option.some_ne_none _).symm
  · exact ⟨_, rfl⟩

end Allocator

/-! ## Calls between plans -/

/-- A call of an allocator whose targets were added before; a plan is applied as soon as it is
made. -/
inductive Call where
  | setActive (id : String) (active : Bool)
  | updatePerformance (id : String) (returns : List Float) (now : Instant)
  | plan (method : Method) (filter : Option TargetType) (now : Instant)

namespace Allocator

variable {a b c : Allocator} {method : Method} {filter : Option TargetType} {now : Instant}
  {plan : Plan} {id : String}

/-- The allocator after a result that may have failed. -/
def settle (a : Allocator) : Except Error Allocator → Allocator
  | .ok b => b
  | .error _ => a

/-- The allocator after a call, however the call ended. -/
def perform? (a : Allocator) : Call → Option Allocator
  | .setActive id active => some (a.settle (a.setActive id active))
  | .updatePerformance id returns now => some (a.settle (a.updatePerformance id returns now))
  | .plan method filter now =>
    (a.makePlan? method filter now).map fun
      | .ok (b, plan) => b.settle (b.applyPlan plan)
      | .error _ => a

/-- The allocator after calls one after another. -/
def run? (a : Allocator) (calls : List Call) : Option Allocator :=
  calls.foldlM perform? a

/-- What holds of an allocator stays true when it survives changes of targets that move no capital
and plans that are made and applied. -/
theorem run?_preserves {P : Allocator → Prop}
    (changed : ∀ {a b : Allocator} {id : String} {f : Target → Target},
      (∀ t, (f t).id = t.id ∧ (f t).currentCapital = t.currentCapital) →
        a.modify id f = .ok b → P a → P b)
    (planned : ∀ {a b c : Allocator} {method : Method} {filter : Option TargetType}
      {now : Instant} {plan : Plan}, a.makePlan? method filter now = some (.ok (b, plan)) →
        b.applyPlan plan = .ok c → P a → P c)
    {calls : List Call} (start : P a) (h : a.run? calls = some b) : P b := by
  induction calls generalizing a with
  | nil =>
    cases h
    exact start
  | cons call calls ih =>
    obtain ⟨between, performed, h⟩ := Option.bind_eq_some_iff.1 h
    apply ih _ h
    cases call with
    | setActive id active =>
      cases performed
      cases result : a.setActive id active with
      | error => exact start
      | ok after =>
        let f (t : Target) : Target := { t with active := active }
        exact changed (f := f) (fun t ↦ ⟨rfl, rfl⟩) result start
    | updatePerformance id returns now =>
      cases performed
      cases result : a.updatePerformance id returns now with
      | error => exact start
      | ok after =>
        let f (t : Target) : Target :=
          let t := t.pushReturns returns
          { t with report := ⟨now, Performance.ofReturns t.returns a.settings.periodsPerYear⟩ }
        exact changed (f := f) (fun t ↦ ⟨rfl, rfl⟩) result start
    | plan method filter now =>
      obtain ⟨result, made, rfl⟩ := Option.map_eq_some_iff.1 performed
      cases result with
      | error => exact start
      | ok after =>
        obtain ⟨b, plan⟩ := after
        obtain ⟨c, applied⟩ := exists_applyPlan made
        have settled : b.settle (b.applyPlan plan) = c := by
          rw [applied]
          rfl
        change P (b.settle (b.applyPlan plan))
        rw [settled]
        exact planned made applied start

end Allocator

end TradingDesk.Allocation
