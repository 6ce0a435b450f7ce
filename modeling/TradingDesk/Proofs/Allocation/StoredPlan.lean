import TradingDesk.Allocation.Plan
import TradingDesk.Proofs.Json.Reals
import TradingDesk.Proofs.Record.Fields

/-!
# Stored Plans

The stored text of a plan is read back as the plan, except that a zero amount loses its sign, which
no comparison of amounts sees.  The plan has to be made at a time of a clock, and to name each of its
targets once.

The figures of a plan are written as they are, whatever they are.  One that is not finite is null in
the text, and null is no figure, so that the text of a plan with such a figure is not read at all.
-/

namespace TradingDesk.Allocation

/-! ## Moves -/

/-- The move without the signs of its zeros. -/
def Move.unsignedZeros (m : Move) : Move :=
  { m with
    fromCapital := m.fromCapital.unsignedZero
    toCapital := m.toCapital.unsignedZero
    delta := m.delta.unsignedZero }

theorem Direction.ofJson?_name (d : Direction) : Direction.ofJson? (.str d.name) = some d := by
  cases d <;> rfl

/-- The fields of a move are read back, one after another. -/
theorem Move.ofJson?_toJson (m : Move) : Move.ofJson? m.toJson = some m.unsignedZeros := by
  -- the fields stay folded, so that each step looks at one name only
  obtain ⟨fields, written⟩ : ∃ fields, m.toJson = .obj fields := ⟨_, rfl⟩
  have fields_eq := Json.obj.inj written
  have distinct : (fields.map (·.1)).Nodup := by
    rw [← fields_eq]
    change (["target_id", "from_capital", "to_capital", "delta", "direction"] : List String).Nodup
    decide
  have target : Record.Typing.text? .strict (.str m.target) = some m.target := rfl
  rw [written, Move.ofJson?, Record.read?,
    Record.required_bind distinct (by simp [← fields_eq]) target,
    Record.required_bind distinct (by simp [← fields_eq]) (Record.decimal?_render m.fromCapital),
    Record.required_bind distinct (by simp [← fields_eq]) (Record.decimal?_render m.toCapital),
    Record.required_bind distinct (by simp [← fields_eq]) (Record.decimal?_render m.delta),
    Record.required_bind distinct (by simp [← fields_eq]) (Direction.ofJson?_name m.direction)]
  rfl

namespace Plan

variable {p : Plan}

/-! ## Figures -/

/-- The numbers of a plan that are not amounts. -/
def figures (p : Plan) : List Float :=
  p.shares.map (·.2) ++
    [p.expectedReturn, p.expectedVolatility, p.expectedSharpe, p.diversification]

/-- Whether all figures of a plan are finite. -/
def IsFinite (p : Plan) : Prop :=
  ∀ x ∈ p.figures, x.isFinite

instance (p : Plan) : Decidable p.IsFinite :=
  inferInstanceAs (Decidable (∀ x ∈ p.figures, x.isFinite))

theorem isFinite_iff : p.IsFinite ↔ (∀ e ∈ p.shares, e.2.isFinite) ∧ p.expectedReturn.isFinite ∧
    p.expectedVolatility.isFinite ∧ p.expectedSharpe.isFinite ∧ p.diversification.isFinite := by
  simp only [IsFinite, figures, List.forall_mem_append, List.forall_mem_map, List.forall_mem_cons,
    List.not_mem_nil, false_implies, implies_true, and_true]

/-! ## Text -/

/-- The plan without the signs of its zeros. -/
def unsignedZeros (p : Plan) : Plan :=
  { p with
    totalCapital := p.totalCapital.unsignedZero
    reserveCapital := p.reserveCapital.unsignedZero
    allocations := p.allocations.map fun e ↦ (e.1, e.2.unsignedZero)
    moves := p.moves.map Move.unsignedZeros }

/-- The fields that are left in the text of a plan. -/
def storedFields (p : Plan) : List (String × Json) :=
  [("created_at", .str p.createdAt.render), ("method", .str p.method.name),
    ("total_capital", .str p.totalCapital.render),
    ("reserve_capital", .str p.reserveCapital.render),
    ("allocations", .obj (p.allocations.map fun e ↦ (e.1, .str e.2.render))),
    ("allocation_pcts", .obj (p.shares.map fun e ↦ (e.1, Json.ofReal e.2))),
    ("expected_return", Json.ofReal p.expectedReturn),
    ("expected_volatility", Json.ofReal p.expectedVolatility),
    ("expected_sharpe", Json.ofReal p.expectedSharpe),
    ("diversification_score", Json.ofReal p.diversification),
    ("rebalancing_actions", Json.ofList Move.toJson p.moves)]

theorem written_toJson (p : Plan) : p.toJson.written = .obj p.storedFields := by
  have allocations : Json.writtenFields (p.allocations.map fun e ↦ (e.1, .str e.2.render)) =
      p.allocations.map fun e ↦ (e.1, .str e.2.render) := by
    rw [Json.writtenFields_eq_map, List.map_map]
    rfl
  have shares : Json.writtenFields (p.shares.map fun e ↦ (e.1, .real e.2)) =
      p.shares.map fun e ↦ (e.1, Json.ofReal e.2) := by
    rw [Json.writtenFields_eq_map, List.map_map]
    rfl
  have moves : Json.writtenItems (p.moves.map Move.toJson) = p.moves.map Move.toJson := by
    rw [Json.writtenItems_eq_map, List.map_map]
    rfl
  rw [toJson, Json.ofList]
  simp only [Json.written, Json.writtenFields, allocations, shares, moves]
  rfl

theorem nodup_storedFields (p : Plan) : (p.storedFields.map (·.1)).Nodup := by
  change (["created_at", "method", "total_capital", "reserve_capital", "allocations",
    "allocation_pcts", "expected_return", "expected_volatility", "expected_sharpe",
    "diversification_score", "rebalancing_actions"] : List String).Nodup
  decide

/-- A text can hold every field of a plan. -/
theorem fits_storedFields (p : Plan) : Json.Fits Json.maxDepth (.obj p.storedFields) := by
  have real (x : Float) : Json.Fits 126 (Json.ofReal x) := Json.fits_ofReal 126 x
  have allocations : Json.Fits 126 (.obj (p.allocations.map fun e ↦ (e.1, .str e.2.render))) := by
    apply Json.Fits.obj
    rw [List.forall_mem_map]
    exact fun _ _ ↦ .str
  have shares : Json.Fits 126 (.obj (p.shares.map fun e ↦ (e.1, Json.ofReal e.2))) := by
    apply Json.Fits.obj
    rw [List.forall_mem_map]
    exact fun e _ ↦ Json.fits_ofReal 125 e.2
  have moves : Json.Fits 126 (Json.ofList Move.toJson p.moves) := by
    apply Json.Fits.arr
    rw [List.forall_mem_map]
    intro m _
    apply Json.Fits.obj
    simp only [List.forall_mem_cons]
    exact ⟨.str, .str, .str, .str, .str, by simp⟩
  apply Json.Fits.obj
  simp only [storedFields, List.forall_mem_cons]
  exact ⟨.str, .str, .str, .str, allocations, shares, real _, real _, real _, real _, moves,
    by simp⟩

theorem float?_ofReal (x : Float) :
    Record.Typing.float? .strict (Json.ofReal x) = if x.isFinite then some x else none := by
  unfold Json.ofReal
  split <;> rfl

theorem choice?_name (m : Method) :
    Record.Typing.choice? .strict Method.choices (.str m.name) = some m := by
  cases m <;> rfl

theorem mapOf?_shares (distinct : (p.shares.map (·.1)).Nodup) :
    Record.mapOf? (Record.Typing.float? .strict)
        (.obj (p.shares.map fun e ↦ (e.1, Json.ofReal e.2))) =
      if ∀ e ∈ p.shares, e.2.isFinite then some p.shares else none := by
  split
  · rename_i finite
    have read (e : String × Float) (mem : e ∈ p.shares) :
        Record.Typing.float? .strict (Json.ofReal e.2) = some (id e.2) := by
      rw [float?_ofReal, if_pos (finite e mem)]
      rfl
    rw [Record.mapOf?_map distinct Json.ofReal _ id read]
    exact congrArg some (List.map_id _)
  · rename_i infinite
    push Not at infinite
    obtain ⟨e, mem, infinite⟩ := infinite
    have listed := List.mem_map_of_mem (f := fun e : String × Float ↦ (e.1, Json.ofReal e.2)) mem
    apply Record.mapOf?_eq_none listed
    rw [float?_ofReal, if_neg infinite]

theorem list?_moves (p : Plan) : Record.Typing.list? Move.ofJson? (Json.ofList Move.toJson p.moves) =
    some (p.moves.map Move.unsignedZeros) := by
  rw [Json.ofList, Record.Typing.list?]
  induction p.moves with
  | nil => rfl
  | cons m moves ih =>
    rw [List.map_cons, List.mapM_cons, Move.ofJson?_toJson, ih]
    rfl

/-- Reading goes on after a figure that is finite. -/
theorem figure_bind {β : Type} {name : String} {x : Float}
    (listed : (name, Json.ofReal x) ∈ p.storedFields) (next : Float → Record.Reader β) :
    (Record.required [name] (Record.Typing.float? .strict) >>= next).run (.named p.storedFields) =
      if x.isFinite then (next x).run (.named p.storedFields) else none := by
  rw [Record.required_bind_eq p.nodup_storedFields listed, float?_ofReal]
  split <;> rfl

/-- Reading goes on after shares that are finite. -/
theorem shares_bind {β : Type} (distinct : (p.shares.map (·.1)).Nodup)
    (next : List (String × Float) → Record.Reader β) :
    (Record.required ["allocation_pcts"] (Record.mapOf? (Record.Typing.float? .strict)) >>=
        next).run (.named p.storedFields) =
      if ∀ e ∈ p.shares, e.2.isFinite then (next p.shares).run (.named p.storedFields)
      else none := by
  have listed : ("allocation_pcts", Json.obj (p.shares.map fun e ↦ (e.1, Json.ofReal e.2))) ∈
      p.storedFields := by
    simp [storedFields]
  rw [Record.required_bind_eq p.nodup_storedFields listed, mapOf?_shares distinct]
  split <;> rfl

/-- The fields of a plan are read back, one after another, up to a figure that is not finite. -/
theorem ofJson?_storedFields (clock : p.createdAt.IsClock)
    (funded : (p.allocations.map (·.1)).Nodup) (shared : (p.shares.map (·.1)).Nodup) :
    ofJson? (.obj p.storedFields) = if p.IsFinite then some p.unsignedZeros else none := by
  have field {α β : Type} (name : String) {value : Json} {read? : Json → Option α} {a : α}
      (read : read? value = some a) (next : α → Record.Reader β)
      (listed : (name, value) ∈ p.storedFields) :=
    Record.required_bind p.nodup_storedFields listed read next
  have allocations := Record.mapOf?_map funded (fun d ↦ .str d.render) Record.decimal?
    Decimal.unsignedZero fun e _ ↦ Record.decimal?_render e.2
  rw [ofJson?, Record.read?,
    field "created_at" (Record.instant?_render clock) _ (by simp [storedFields]),
    field "method" (choice?_name p.method) _ (by simp [storedFields]),
    field "total_capital" (Record.decimal?_render p.totalCapital) _ (by simp [storedFields]),
    field "reserve_capital" (Record.decimal?_render p.reserveCapital) _ (by simp [storedFields]),
    field "allocations" allocations _ (by simp [storedFields]), shares_bind shared,
    figure_bind (x := p.expectedReturn) (by simp [storedFields]),
    figure_bind (x := p.expectedVolatility) (by simp [storedFields]),
    figure_bind (x := p.expectedSharpe) (by simp [storedFields]),
    figure_bind (x := p.diversification) (by simp [storedFields]),
    field "rebalancing_actions" p.list?_moves _ (by simp [storedFields])]
  -- the conditions are those of the figures, in the order in which they are read
  rw [if_congr isFinite_iff rfl rfl]
  simp only [ite_and, apply_ite (Option.map _), Option.map_none]
  rfl

/-- The stored text of a plan is read back when all figures are finite, and not read otherwise. -/
theorem parse?_storedText (clock : p.createdAt.IsClock)
    (funded : (p.allocations.map (·.1)).Nodup) (shared : (p.shares.map (·.1)).Nodup) :
    parse? p.storedText = if p.IsFinite then some p.unsignedZeros else none := by
  have fits : Json.Fits Json.maxDepth p.toJson.written :=
    p.written_toJson ▸ p.fits_storedFields
  rw [parse?, storedText, Json.parse?_compact_written fits, Option.bind_some, written_toJson,
    ofJson?_storedFields clock funded shared]

end Plan

end TradingDesk.Allocation
