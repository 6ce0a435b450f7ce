import TradingDesk.Proofs.Allocation.Budget

/-!
# Targets Named Once

An allocator files each target under its name, in the place of an earlier one of that name.  So no
two targets of an allocator that operations lead to have one name, and neither has any plan made
over them.
-/

namespace TradingDesk.Allocation

variable {targets : List Target}

namespace Allocator

variable {a b : Allocator} {id : String} {method : Method} {filter : Option TargetType}
  {now : Instant} {plan : Plan}

/-- Whether no two targets have one name. -/
def IsDistinct (a : Allocator) : Prop :=
  (a.targets.map (·.id)).Nodup

theorem isDistinct_map {f : Target → Target} (same : ∀ t, (f t).id = t.id) (h : a.IsDistinct)
    (changed : b.targets = a.targets.map f) : b.IsDistinct := by
  have names : b.targets.map (·.id) = a.targets.map (·.id) := by
    rw [changed, List.map_map]
    exact List.map_congr_left fun t _ ↦ same t
  rw [IsDistinct, names]
  exact h

theorem isDistinct_modify {f : Target → Target} (same : ∀ t, (f t).id = t.id) (h : a.IsDistinct)
    (changed : a.modify id f = .ok b) : b.IsDistinct := by
  obtain ⟨-, rfl⟩ := modify_cases changed
  refine isDistinct_map ?_ h rfl
  intro t
  split
  · exact same t
  · rfl

theorem nodup_insertTarget (t : Target) (h : (targets.map (·.id)).Nodup) :
    ((insertTarget t targets).map (·.id)).Nodup := by
  have kept (keep : Target → Bool) : ((targets.filter keep).map (·.id)).Nodup :=
    h.sublist (List.filter_sublist.map _)
  have after : t.id ∉ (targets.filter (fun u ↦ t.id < u.id)).map (·.id) := by
    rw [List.mem_map]
    rintro ⟨u, mem, same⟩
    have above := of_decide_eq_true (List.mem_filter.1 mem).2
    rw [same] at above
    exact lt_irrefl _ above
  rw [insertTarget, List.map_append, List.map_cons, List.nodup_append]
  refine ⟨kept _, List.nodup_cons.2 ⟨after, kept _⟩, ?_⟩
  intro name before other rest
  obtain ⟨u, mem, rfl⟩ := List.mem_map.1 before
  have below := of_decide_eq_true (List.mem_filter.1 mem).2
  obtain rfl | later := List.mem_cons.1 rest
  · exact ne_of_lt below
  · obtain ⟨v, mem, rfl⟩ := List.mem_map.1 later
    exact ne_of_lt (lt_trans below (of_decide_eq_true (List.mem_filter.1 mem).2))

/-- Reachable allocators name each target once. -/
theorem Reachable.isDistinct (h : a.Reachable) : a.IsDistinct := by
  induction h with
  | new => exact List.nodup_nil
  | @add a b t _ added ih =>
    obtain ⟨-, rfl⟩ := add_cases added
    exact nodup_insertTarget _ ih
  | remove id _ ih => exact ih.sublist (List.filter_sublist.map _)
  | setActive _ changed ih =>
    refine isDistinct_modify ?_ ih changed
    exact fun t ↦ rfl
  | setTotalCapital total _ ih => exact ih
  | updatePerformance _ changed ih =>
    refine isDistinct_modify ?_ ih changed
    exact fun t ↦ rfl
  | makePlan? _ made ih =>
    obtain ⟨-, rfl⟩ := makePlan?_cases made
    refine isDistinct_map ?_ ih rfl
    intro t
    split <;> rfl
  | applyPlan _ applied ih =>
    obtain ⟨-, rfl⟩ := applyPlan_cases applied
    refine isDistinct_map ?_ ih rfl
    intro t
    split <;> rfl

theorem nodup_names_zip {α : Type} {names : List String} (h : names.Nodup) (values : List α) :
    ((names.zip values).map (·.1)).Nodup := by
  induction names generalizing values with
  | nil => exact List.nodup_nil
  | cons name names ih =>
    cases values with
    | nil => exact List.nodup_nil
    | cons value values =>
      obtain ⟨fresh, rest⟩ := List.nodup_cons.1 h
      rw [List.zip_cons_cons, List.map_cons, List.nodup_cons]
      refine ⟨?_, ih rest values⟩
      rw [List.mem_map]
      rintro ⟨entry, mem, rfl⟩
      exact fresh (List.of_mem_zip mem).1

/-- The amounts and shares of a plan are listed in the order of its targets. -/
theorem planOver?_entries (h : a.planOver? targets method filter now = some plan) :
    ∃ available weights amounts shares, weights? method targets = some weights ∧
      amounts? available weights = some amounts ∧
      amounts.mapM (shareOf? · a.budget) = some shares ∧ plan.createdAt = now ∧
      plan.allocations = (targets.map (·.id)).zip amounts ∧
      plan.shares = (targets.map (·.id)).zip shares := by
  obtain ⟨reserve, -, h⟩ := Option.bind_eq_some_iff.1 h
  obtain ⟨available, -, h⟩ := Option.bind_eq_some_iff.1 h
  obtain ⟨weights, weighed, h⟩ := Option.bind_eq_some_iff.1 h
  obtain ⟨amounts, given, h⟩ := Option.bind_eq_some_iff.1 h
  obtain ⟨shares, shared, h⟩ := Option.bind_eq_some_iff.1 h
  obtain ⟨moves, -, h⟩ := Option.bind_eq_some_iff.1 h
  cases h
  exact ⟨available, weights, amounts, shares, weighed, given, shared, rfl, rfl, rfl⟩

/-- A plan names each of its targets once, and has the time at which it is made. -/
theorem makePlan?_named (distinct : a.IsDistinct)
    (h : a.makePlan? method filter now = some (.ok (b, plan))) :
    plan.createdAt = now ∧ (plan.allocations.map (·.1)).Nodup ∧
      (plan.shares.map (·.1)).Nodup := by
  obtain ⟨planned, -⟩ := makePlan?_cases h
  have names : ((a.selected filter).map (·.id)).Nodup :=
    distinct.sublist (List.filter_sublist.map _)
  obtain ⟨-, -, amounts, shares, -, -, -, time, funded, shared⟩ := planOver?_entries planned
  rw [funded, shared]
  exact ⟨time, nodup_names_zip names amounts, nodup_names_zip names shares⟩

end Allocator

end TradingDesk.Allocation
