import TradingDesk.Proofs.Allocation.Names
import TradingDesk.Proofs.Table

/-!
# Operations Step by Step

An operation on an allocator answers with a whole allocator or with an error.  It can also be carried
out in steps that read and write the targets of one allocator in turn and may end early; what was
written before an early end stays written.

Step by step, the returns of a target are pushed one by one and the shares and amounts of a plan are
written one by one.  The steps end as the operation does, and they leave the allocator that it
answers with, or the one they started from when it answers with an error.  Plans name each target
once, so it does not matter which of its targets is written first.
-/

namespace TradingDesk.Allocation

/-- An operation on an allocator.  A plan to apply names each target once. -/
inductive Operation where
  | add (t : Target)
  | remove (id : String)
  | setActive (id : String) (active : Bool)
  | updatePerformance (id : String) (returns : List Float) (now : Instant)
  | makePlan (method : Method) (filter : Option TargetType) (now : Instant)
  | applyPlan (plan : Plan) (once : (plan.allocations.map (·.1)).Nodup)
  | setTotalCapital (total : Decimal)

namespace Allocator

/-- What an operation answers: an error, or the allocator after it with the plan that was made.  An
operation that takes an amount out of range has no answer. -/
def result? (a : Allocator) : Operation → Option (Except Error (Allocator × Option Plan))
  | .add t => some ((a.add t).map (·, none))
  | .remove id => some (.ok ((a.remove id).1, none))
  | .setActive id active => some ((a.setActive id active).map (·, none))
  | .updatePerformance id returns now =>
    some ((a.updatePerformance id returns now).map (·, none))
  | .makePlan method filter now =>
    (a.makePlan? method filter now).map (·.map fun (b, plan) ↦ (b, some plan))
  | .applyPlan plan _ => some ((a.applyPlan plan).map (·, none))
  | .setTotalCapital total => some (.ok (a.setTotalCapital total, none))

/-- The allocator with one target changed. -/
def rewrite (a : Allocator) (id : String) (f : Target → Target) : Allocator :=
  { a with targets := a.targets.map fun t ↦ if t.id == id then f t else t }

theorem rewrite_rewrite {f : Target → Target} (same : ∀ t, (f t).id = t.id) (a : Allocator)
    (id : String) (g : Target → Target) :
    (a.rewrite id f).rewrite id g = a.rewrite id fun t ↦ g (f t) := by
  rw [rewrite, rewrite, rewrite, List.map_map]
  congr 1
  apply List.map_congr_left
  intro t _
  rw [Function.comp_apply]
  by_cases named : t.id == id
  · rw [if_pos named, if_pos (by rw [same]; exact named), if_pos named]
  · rw [if_neg named, if_neg named, if_neg named]

end Allocator

/-! ## Steps -/

/-- Steps that read and write one allocator: how they end and the allocator that they leave.  There
is no end when an amount is out of range. -/
structure Steps (α : Type) where
  run : Allocator → Option (Except Error α × Allocator)

namespace Steps

instance : Monad Steps where
  pure x := ⟨fun a ↦ some (.ok x, a)⟩
  bind c d := ⟨fun a ↦ (c.run a).bind fun
    | (.ok x, b) => (d x).run b
    | (.error e, b) => some (.error e, b)⟩

/-- Ends early. -/
def fail {α : Type} (e : Error) : Steps α :=
  ⟨fun a ↦ some (.error e, a)⟩

/-- The allocator as it is. -/
def read : Steps Allocator :=
  ⟨fun a ↦ some (.ok a, a)⟩

/-- A result, unless it is out of range. -/
def compute {α : Type} (x : Option α) : Steps α :=
  ⟨fun a ↦ x.map fun x ↦ (.ok x, a)⟩

/-- Changes the allocator. -/
def change (f : Allocator → Allocator) : Steps Unit :=
  ⟨fun a ↦ some (.ok (), f a)⟩

/-- Goes on under a condition only. -/
def demand (condition : Bool) (e : Error) : Steps Unit :=
  if condition then pure () else fail e

/-- Goes on only when a target exists. -/
def require (id : String) : Steps Unit := do
  let a ← read
  demand (a.target? id).isSome (.unknownTarget id)

/-- Changes one target. -/
def write (id : String) (f : Target → Target) : Steps Unit :=
  change (·.rewrite id f)

end Steps

open Steps in
/-- An operation step by step, with the plan that it makes. -/
def Operation.steps : Operation → Steps (Option Plan)
  | .add t => do
    demand (Allocator.validBounds t.minShare t.maxShare) (.invalidBounds t.id t.minShare t.maxShare)
    let t := { t with returns := [] }.pushReturns t.returns
    change fun a ↦ { a with targets := Allocator.insertTarget t a.targets }
    return none
  | .remove id => do
    change fun a ↦ (a.remove id).1
    return none
  | .setActive id active => do
    require id
    write id fun t ↦ { t with active := active }
    return none
  | .updatePerformance id returns now => do
    require id
    returns.forM fun r ↦ write id fun t ↦ { t with returns := Target.pushReturn t.returns r }
    let a ← read
    write id fun t ↦
      { t with report := ⟨now, Performance.ofReturns t.returns a.settings.periodsPerYear⟩ }
    return none
  | .makePlan method filter now => do
    let a ← read
    demand (!(a.selected filter).isEmpty) .noActiveTargets
    let plan ← compute (a.planOver? (a.selected filter) method filter now)
    plan.shares.forM fun entry ↦ write entry.1 fun t ↦ { t with plannedShare := entry.2 }
    change fun a ↦ { a with history := a.history ++ [plan] }
    return some plan
  | .applyPlan plan _ => do
    plan.allocations.forM fun entry ↦ require entry.1
    plan.allocations.forM fun entry ↦
      write entry.1 fun t ↦ { t with currentCapital := entry.2 }
    return none
  | .setTotalCapital total => do
    change (·.setTotalCapital total)
    return none

/-! ## How steps end -/

namespace Steps

variable {α β : Type} {a b : Allocator}

theorem run_bind_of_ok {c : Steps α} {d : α → Steps β} {x : α}
    (h : c.run a = some (.ok x, b)) : (c >>= d).run a = (d x).run b := by
  change (c.run a).bind _ = _
  rw [h]
  rfl

theorem run_bind_of_error {c : Steps α} {d : α → Steps β} {e : Error}
    (h : c.run a = some (.error e, b)) : (c >>= d).run a = some (.error e, b) := by
  change (c.run a).bind _ = _
  rw [h]
  rfl

theorem run_demand_of_true {condition : Bool} (h : condition = true) (e : Error) :
    (demand condition e).run a = some (.ok (), a) := by
  rw [h]
  rfl

theorem run_demand_of_false {condition : Bool} (h : condition = false) (e : Error) :
    (demand condition e).run a = some (.error e, a) := by
  rw [h]
  rfl

theorem run_require_of_known {id : String} (known : (a.target? id).isSome) :
    (require id).run a = some (.ok (), a) :=
  run_demand_of_true known _

theorem run_require_of_unknown {id : String} (unknown : (a.target? id).isNone) :
    (require id).run a = some (.error (.unknownTarget id), a) := by
  apply run_demand_of_false
  rw [Option.isNone_iff_eq_none.1 unknown]
  rfl

/-- Requiring targets writes nothing and fails at the first one that does not exist. -/
theorem run_forM_require (entries : List (String × α)) (a : Allocator) :
    (entries.forM fun entry ↦ require entry.1).run a = some
      (match entries.find? fun entry ↦ (a.target? entry.1).isNone with
        | some entry => .error (.unknownTarget entry.1)
        | none => .ok (), a) := by
  induction entries with
  | nil => rfl
  | cons entry entries ih =>
    rw [List.forM_eq_forM, List.forM_cons, List.find?_cons]
    cases unknown : (a.target? entry.1).isNone with
    | true => exact run_bind_of_error (run_require_of_unknown unknown)
    | false =>
      rw [run_bind_of_ok (run_require_of_known (Option.isNone_eq_false_iff.1 unknown))]
      exact ih

/-- Writing targets in turn changes every target by the writes that name it. -/
theorem run_forM_write (xs : List α) (name : α → String) (f : α → Target → Target)
    (a : Allocator) :
    (xs.forM fun x ↦ write (name x) (f x)).run a = some (.ok (), { a with
      targets := a.targets.map fun t ↦
        xs.foldl (fun t x ↦ if t.id == name x then f x t else t) t }) := by
  induction xs generalizing a with
  | nil =>
    change some (Except.ok (), a) = some (Except.ok (), { a with targets := a.targets.map id })
    rw [List.map_id]
  | cons x xs ih =>
    have first : (write (name x) (f x)).run a = some (.ok (), a.rewrite (name x) (f x)) := rfl
    rw [List.forM_eq_forM, List.forM_cons, run_bind_of_ok first, ← List.forM_eq_forM, ih,
      Allocator.rewrite, List.map_map]
    rfl

end Steps

/-! ## Writes to one target -/

/-- Of the writes of a plan, one at most names a target. -/
theorem foldl_write {α : Type} {entries : List (String × α)} {f : α → Target → Target}
    (once : (entries.map (·.1)).Nodup) (same : ∀ x t, (f x t).id = t.id) (t : Target) :
    entries.foldl (fun t entry ↦ if t.id == entry.1 then f entry.2 t else t) t =
      ((entries.lookup t.id).map (f · t)).getD t := by
  induction entries generalizing t with
  | nil => rfl
  | cons entry entries ih =>
    obtain ⟨fresh, once⟩ := List.nodup_cons.1 once
    rw [List.foldl_cons, List.lookup_cons, ih once]
    cases named : t.id == entry.1 with
    | false => rfl
    | true =>
      have absent : entries.lookup t.id = none := by
        rw [beq_iff_eq.1 named]
        exact Table.find?_eq_none_of_not_mem fresh
      rw [if_pos rfl, same, absent]
      rfl

/-- Writing the targets of a plan in turn changes each of them as the plan says. -/
theorem run_forM_entries {α : Type} {entries : List (String × α)} {f : α → Target → Target}
    {g : Target → Target} (once : (entries.map (·.1)).Nodup) (same : ∀ x t, (f x t).id = t.id)
    (named : ∀ t x, entries.lookup t.id = some x → g t = f x t)
    (unnamed : ∀ t, entries.lookup t.id = none → g t = t) (a : Allocator) :
    (entries.forM fun entry ↦ Steps.write entry.1 (f entry.2)).run a =
      some (.ok (), { a with targets := a.targets.map g }) := by
  have changed : (fun t ↦ entries.foldl
      (fun t entry ↦ if t.id == entry.1 then f entry.2 t else t) t) = g := by
    funext t
    rw [foldl_write once same]
    cases found : entries.lookup t.id with
    | none => exact (unnamed t found).symm
    | some x => exact (named t x found).symm
  rw [Steps.run_forM_write entries (·.1) fun entry ↦ f entry.2, changed]

/-- The returns that are pushed one by one are the ones that are pushed together. -/
theorem foldl_pushReturn (id : String) (returns : List Float) (t : Target) :
    returns.foldl (fun t r ↦
        if t.id == id then { t with returns := Target.pushReturn t.returns r } else t) t =
      if t.id == id then t.pushReturns returns else t := by
  induction returns generalizing t with
  | nil =>
    split
    · rfl
    · rfl
  | cons r returns ih =>
    rw [List.foldl_cons, ih]
    split
    · rfl
    · rfl

/-! ## The steps of an operation -/

open Steps

/-- How steps end that carry out an operation with a given answer. -/
def Allocator.ending (a : Allocator) :
    Except Error (Allocator × Option Plan) → Except Error (Option Plan) × Allocator
  | .ok (b, plan) => (.ok plan, b)
  | .error e => (.error e, a)

variable {a : Allocator}

/-- Steps that require a target and then change it. -/
theorem run_modify {id : String} {f : Target → Target} {c : Steps (Option Plan)}
    (written : c.run a = some (.ok none, a.rewrite id f)) :
    (require id >>= fun _ ↦ c).run a = some (a.ending ((a.modify id f).map (·, none))) := by
  unfold Allocator.modify
  cases known : a.target? id with
  | none => exact run_bind_of_error (run_require_of_unknown (by rw [known]; rfl))
  | some t =>
    rw [run_bind_of_ok (run_require_of_known (by rw [known]; rfl)), written]
    rfl

theorem run_updatePerformance (id : String) (returns : List Float) (now : Instant) :
    (Operation.updatePerformance id returns now).steps.run a =
      some (a.ending ((a.updatePerformance id returns now).map (·, none))) := by
  have pushed := run_forM_write returns (fun _ ↦ id)
    (fun r t ↦ { t with returns := Target.pushReturn t.returns r }) a
  simp only [foldl_pushReturn] at pushed
  have joined (g : Target → Target) :
      (a.rewrite id fun t ↦ t.pushReturns returns).rewrite id g =
        a.rewrite id fun t ↦ g (t.pushReturns returns) := by
    apply Allocator.rewrite_rewrite
    exact fun t ↦ rfl
  apply run_modify
  rw [run_bind_of_ok pushed]
  exact congrArg (fun b ↦ some (Except.ok none, b)) (joined _)

theorem run_noteShares {shares : List (String × Float)} (once : (shares.map (·.1)).Nodup) :
    (shares.forM fun entry ↦ write entry.1 fun t ↦ { t with plannedShare := entry.2 }).run a =
      some (.ok (), { a with targets := Allocator.noteShares shares a.targets }) := by
  refine run_forM_entries (f := fun share t ↦ { t with plannedShare := share }) once
    (fun _ _ ↦ rfl) ?_ ?_ a
  · intro t share found
    rw [found]
  · intro t absent
    rw [absent]

theorem run_makePlan (distinct : a.IsDistinct) (method : Method) (filter : Option TargetType)
    (now : Instant) :
    (Operation.makePlan method filter now).steps.run a =
      (a.result? (.makePlan method filter now)).map a.ending := by
  have known : read.run a = some (.ok a, a) := rfl
  rw [Operation.steps, run_bind_of_ok known, Allocator.result?]
  cases empty : (a.selected filter).isEmpty with
  | true =>
    have refused : a.makePlan? method filter now = some (.error .noActiveTargets) := if_pos empty
    rw [refused]
    exact run_bind_of_error (run_demand_of_false rfl _)
  | false =>
    rw [run_bind_of_ok (run_demand_of_true Bool.not_false _)]
    cases planned : a.planOver? (a.selected filter) method filter now with
    | none =>
      have refused : a.makePlan? method filter now = none := by
        rw [Allocator.makePlan?, empty, planned]
        rfl
      rw [refused]
      rfl
    | some plan =>
      have made : a.makePlan? method filter now = some (.ok ({ a with
          targets := Allocator.noteShares plan.shares a.targets
          history := a.history ++ [plan] }, plan)) := by
        rw [Allocator.makePlan?, empty, planned]
        rfl
      have computed : (compute (some plan)).run a = some (.ok plan, a) := rfl
      rw [made, run_bind_of_ok computed,
        run_bind_of_ok (run_noteShares (Allocator.makePlan?_named distinct made).2.2)]
      rfl

theorem run_applyPlan (plan : Plan) (once : (plan.allocations.map (·.1)).Nodup) :
    (Operation.applyPlan plan once).steps.run a =
      some (a.ending ((a.applyPlan plan).map (·, none))) := by
  have checked := run_forM_require plan.allocations a
  unfold Allocator.applyPlan
  split
  · rename_i unknown
    rw [unknown] at checked
    exact run_bind_of_error checked
  · rename_i known
    rw [known] at checked
    rw [Operation.steps, run_bind_of_ok checked]
    apply run_bind_of_ok
    refine run_forM_entries (f := fun capital t ↦ { t with currentCapital := capital }) once
      (fun _ _ ↦ rfl) ?_ ?_ a
    · intro t capital found
      rw [found]
    · intro t absent
      rw [absent]

theorem run_add (t : Target) :
    (Operation.add t).steps.run a = some (a.ending ((a.add t).map (·, none))) := by
  unfold Allocator.add
  split
  · rename_i valid
    exact run_bind_of_ok (run_demand_of_true valid _)
  · rename_i invalid
    exact run_bind_of_error (run_demand_of_false (Bool.eq_false_of_not_eq_true invalid) _)

/-- Step by step, an operation ends as it answers: its steps leave the allocator of its answer, or
the one they started from when it answers with an error. -/
theorem run_steps (distinct : a.IsDistinct) (op : Operation) :
    op.steps.run a = (a.result? op).map a.ending := by
  cases op with
  | add t => exact run_add t
  | remove id => rfl
  | setActive id active => exact run_modify rfl
  | updatePerformance id returns now => exact run_updatePerformance id returns now
  | makePlan method filter now => exact run_makePlan distinct method filter now
  | applyPlan plan once => exact run_applyPlan plan once
  | setTotalCapital total => rfl

end TradingDesk.Allocation
