import Mathlib.Data.Option.Basic

/-!
# Related Results

Two computations that start from related inputs may both have no result, or give related ones.  The
rules of this module carry such a relation through the steps of a computation.
-/

namespace TradingDesk

variable {α β γ δ ε : Type} {r : α → β → Prop} {r' : γ → δ → Prop} {x : Option α} {y : Option β}

/-! ## Results that may be missing -/

theorem rel_same (x : Option α) : Option.Rel Eq x x := by
  cases x with
  | none => exact .none
  | some a => exact .some rfl

theorem rel_bind {f : α → Option γ} {g : β → Option δ} (related : Option.Rel r x y)
    (h : ∀ a b, x = some a → r a b → Option.Rel r' (f a) (g b)) :
    Option.Rel r' (x.bind f) (y.bind g) := by
  cases related with
  | none => exact .none
  | some both => exact h _ _ rfl both

theorem bind_eq_of_rel {f : α → Option γ} {g : β → Option γ} (related : Option.Rel r x y)
    (h : ∀ a b, r a b → f a = g b) : x.bind f = y.bind g := by
  cases related with
  | none => rfl
  | some both => exact h _ _ both

/-- A step that both computations share. -/
theorem rel_bind_same {f : α → Option γ} {g : α → Option δ} (x : Option α)
    (h : ∀ a, Option.Rel r' (f a) (g a)) : Option.Rel r' (x.bind f) (x.bind g) := by
  cases x with
  | none => exact .none
  | some a => exact h a

theorem rel_map {f : α → γ} {g : β → δ} (related : Option.Rel r x y)
    (h : ∀ a b, r a b → r' (f a) (g b)) : Option.Rel r' (x.map f) (y.map g) := by
  cases related with
  | none => exact .none
  | some both => exact .some (h _ _ both)

theorem rel_imp {r' : α → β → Prop} (related : Option.Rel r x y) (h : ∀ a b, r a b → r' a b) :
    Option.Rel r' x y := by
  cases related with
  | none => exact .none
  | some both => exact .some (h _ _ both)

theorem map_eq_of_rel {f : α → γ} {g : β → γ} (related : Option.Rel r x y)
    (h : ∀ a b, r a b → f a = g b) : x.map f = y.map g := by
  cases related with
  | none => rfl
  | some both => exact congrArg some (h _ _ both)

theorem rel_of_map_eq {f : α → γ} {g : β → γ} (same : x.map f = y.map g) :
    Option.Rel (fun a b ↦ f a = g b) x y := by
  cases x with
  | none =>
    cases y with
    | none => exact .none
    | some b => cases same
  | some a =>
    cases y with
    | none => cases same
    | some b => exact .some (Option.some.inj same)

theorem isSome_eq_of_rel (related : Option.Rel r x y) : x.isSome = y.isSome := by
  cases related with
  | none => rfl
  | some => rfl

/-- A row of steps that keep a relation. -/
theorem rel_foldlM {f : α → γ → Option α} {g : β → γ → Option β} {steps : List γ} {a : α} {b : β}
    (start : r a b) (step : ∀ c ∈ steps, ∀ a b, r a b → Option.Rel r (f a c) (g b c)) :
    Option.Rel r (steps.foldlM f a) (steps.foldlM g b) := by
  induction steps generalizing a b with
  | nil => exact .some start
  | cons c steps ih =>
    rw [List.foldlM_cons, List.foldlM_cons]
    refine rel_bind (step c List.mem_cons_self a b start) fun a' b' _ both ↦ ih both ?_
    exact fun c mem ↦ step c (List.mem_cons_of_mem _ mem)

/-! ## Results that may be errors -/

/-- Whether two results are the same error, or related values. -/
inductive RelResult (r : α → β → Prop) : Except ε α → Except ε β → Prop
  | ok {a : α} {b : β} (both : r a b) : RelResult r (.ok a) (.ok b)
  | error (e : ε) : RelResult r (.error e) (.error e)

end TradingDesk
