import TradingDesk.Allocation.Allocator
import TradingDesk.Proofs.Allocation.Planning
import TradingDesk.Proofs.Binary64.Order

/-!
# The Sum of Weights

Weights are quotients of floating-point numbers by their sum, and each operation rounds on its own.
A sum of numbers that are not negative misses the exact sum by at most one part of 2 ^ 52 for every
number added, and each quotient adds one more part and the smallest number.  Hence the weights of
every method add up to at most one but for these parts, whatever the figures of the targets are, as
long as the bounds of the targets lie between zero and one.

A quotient that is infinite has no decimal and gets nothing, so it counts as any weight.
-/

namespace TradingDesk.Allocation

open Binary64 (HasValue IsInfinite IsNumber roundoff smallest)

variable {xs ys : List Float} {vs : List ℚ} {x : Float} {a b : ℚ}

/-- Elements that all have images have a list of them. -/
theorem exists_images {α β : Type} {R : α → β → Prop} {xs : List α}
    (h : ∀ x ∈ xs, ∃ y, R x y) : ∃ ys, List.Forall₂ R xs ys := by
  induction xs with
  | nil => exact ⟨[], List.Forall₂.nil⟩
  | cons x xs ih =>
    obtain ⟨y, first⟩ := h x List.mem_cons_self
    obtain ⟨ys, rest⟩ := ih fun x mem ↦ h x (List.mem_cons_of_mem _ mem)
    exact ⟨y :: ys, List.Forall₂.cons first rest⟩

/-! ## Sums -/

theorem roundoff_nonneg : (0 : ℚ) ≤ roundoff := by
  norm_num [roundoff]

theorem smallest_nonneg : (0 : ℚ) ≤ smallest := by
  unfold smallest
  positivity

theorem one_le_grown (n : ℕ) : (1 : ℚ) ≤ (1 + roundoff) ^ n :=
  one_le_pow₀ (by linarith [roundoff_nonneg])

theorem sum_nonneg (h : List.Forall₂ HasValue xs vs) : 0 ≤ vs.sum := by
  apply List.sum_nonneg
  intro v mem
  obtain ⟨x, -, value⟩ := exists_source_of_mem h mem
  exact value.nonneg

theorem foldl_add_infinite (h : List.Forall₂ HasValue xs vs) (infinite : IsInfinite x) :
    IsInfinite (xs.foldl (· + ·) x) := by
  induction h generalizing x with
  | nil => exact infinite
  | cons value _ ih => exact ih (infinite.add (Or.inr value))

theorem foldl_add_outcome (h : List.Forall₂ HasValue xs vs) (start : HasValue x a) :
    IsInfinite (xs.foldl (· + ·) x) ∨
      ∃ c, HasValue (xs.foldl (· + ·) x) c ∧ a + vs.sum ≤ c * (1 + roundoff) ^ xs.length := by
  induction h generalizing x a with
  | nil => exact Or.inr ⟨a, start, by simp⟩
  | @cons y v ys vs value rest ih =>
    rw [List.foldl_cons]
    rcases Binary64.add_outcome start value with infinite | ⟨b, sum, near⟩
    · exact Or.inl (foldl_add_infinite rest infinite)
    · refine (ih sum).imp_right ?_
      rintro ⟨c, total, near'⟩
      refine ⟨c, total, ?_⟩
      have nonneg := mul_nonneg (sum_nonneg rest) roundoff_nonneg
      have part : (0 : ℚ) ≤ 1 + roundoff := by linarith [roundoff_nonneg]
      rw [List.sum_cons, List.length_cons]
      calc a + (v + vs.sum) ≤ (b + vs.sum) * (1 + roundoff) := by linarith
        _ ≤ c * (1 + roundoff) ^ ys.length * (1 + roundoff) := by gcongr
        _ = c * (1 + roundoff) ^ (ys.length + 1) := by ring

/-- A sum that is not infinite keeps all but a part of the exact one for each number added. -/
theorem sum_outcome (h : List.Forall₂ HasValue xs vs) :
    IsInfinite (Binary64.sum xs) ∨
      ∃ c, HasValue (Binary64.sum xs) c ∧ vs.sum ≤ c * (1 + roundoff) ^ xs.length := by
  have start : HasValue (-0.0) 0 := Binary64.Stands.zero .negative
  have outcome := foldl_add_outcome h start
  rwa [zero_add] at outcome

/-- Whether a number can divide numbers as their total: it is positive, and when it is not infinite
it keeps all but a part of their sum for each of `n` numbers. -/
def IsTotal (total : Float) (sum : ℚ) (n : ℕ) : Prop :=
  IsInfinite total ∨ ∃ c, HasValue total c ∧ 0 < c ∧ sum ≤ c * (1 + roundoff) ^ n

theorem isTotal_sum (h : List.Forall₂ HasValue xs vs)
    (pos : ∀ {c : ℚ}, HasValue (Binary64.sum xs) c → 0 < c) :
    IsTotal (Binary64.sum xs) vs.sum xs.length := by
  refine (sum_outcome h).imp_right ?_
  rintro ⟨c, value, near⟩
  exact ⟨c, value, pos value, near⟩

/-- A sum that is not at most zero. -/
theorem isTotal_of_not_le_zero (h : List.Forall₂ HasValue xs vs)
    (above : ¬ Binary64.sum xs ≤ 0.0) : IsTotal (Binary64.sum xs) vs.sum xs.length := by
  apply isTotal_sum h
  intro c value
  exact not_le.1 (mt (Binary64.le_iff value Binary64.hasValue_zero).2 above)

/-! ## Shares -/

/-- Whether a weight is at most a number.  An infinite weight counts as any weight. -/
def IsAtMost (w : Float) (v : ℚ) : Prop :=
  0 ≤ v ∧ (IsInfinite w ∨ ∃ c, HasValue w c ∧ c ≤ v)

/-- What weights add up to at most: one, but for the rounding of their sum and of each of them. -/
def weightLimit (n : ℕ) : ℚ :=
  (1 + roundoff) ^ (n + 2) + n * smallest

/-- Whether there is a given number of weights that are at most numbers within the limit. -/
def AddUp (ws : List Float) (n : ℕ) : Prop :=
  ws.length = n ∧ ∃ vs, List.Forall₂ IsAtMost ws vs ∧ vs.sum ≤ weightLimit n

theorem HasValue.isAtMost (h : HasValue x a) : IsAtMost x a :=
  ⟨h.nonneg, Or.inr ⟨a, h, le_rfl⟩⟩

theorem isAtMost_div {total : Float} (h : HasValue x a) (sum : HasValue total b) (pos : 0 < b) :
    IsAtMost (x / total) (a / b * (1 + roundoff) + smallest) := by
  have nonneg : 0 ≤ a / b * (1 + roundoff) := by
    have share := div_nonneg h.nonneg pos.le
    exact mul_nonneg share (by linarith [roundoff_nonneg])
  refine ⟨by linarith [smallest_nonneg], ?_⟩
  exact (Binary64.div_outcome h sum pos).imp And.left id

/-- Numbers divided by their sum. -/
theorem addUp_shares {total : Float} (h : List.Forall₂ HasValue xs vs)
    (sum : IsTotal total vs.sum xs.length) :
    AddUp (xs.map (· / total)) xs.length := by
  have part := one_le_grown (xs.length + 2)
  have whole : 0 ≤ xs.length * smallest := mul_nonneg (Nat.cast_nonneg _) smallest_nonneg
  rcases sum with infinite | ⟨c, value, pos, near⟩
  · refine ⟨List.length_map _, xs.map fun _ ↦ 0, ?_, ?_⟩
    · rw [List.forall₂_map_left_iff, List.forall₂_map_right_iff, List.forall₂_same]
      intro x mem
      obtain ⟨v, -, value⟩ := exists_image_of_mem h mem
      exact HasValue.isAtMost (value.div_infinite infinite)
    · rw [List.map_const', List.sum_replicate, nsmul_zero, weightLimit]
      linarith
  · refine ⟨List.length_map _, vs.map fun v ↦ v / c * (1 + roundoff) + smallest, ?_, ?_⟩
    · rw [List.forall₂_map_left_iff, List.forall₂_map_right_iff]
      exact h.imp fun x v share ↦ isAtMost_div share value pos
    · have count : vs.length = xs.length := h.length_eq.symm
      have exact : (vs.map fun v ↦ v / c * (1 + roundoff) + smallest).sum =
          vs.sum / c * (1 + roundoff) + xs.length * smallest := by
        rw [← count]
        clear h near count
        induction vs with
        | nil => simp
        | cons v vs ih =>
          rw [List.map_cons, List.sum_cons, ih, List.sum_cons, List.length_cons]
          push_cast
          ring
      have share : vs.sum / c ≤ (1 + roundoff) ^ xs.length := by
        rw [div_le_iff₀ pos, mul_comm]
        exact near
      have factor : (0 : ℚ) ≤ 1 + roundoff := by linarith [roundoff_nonneg]
      have grown : (1 + roundoff) ^ (xs.length + 1) ≤ (1 + roundoff) ^ (xs.length + 2) :=
        pow_le_pow_right₀ (by linarith [roundoff_nonneg]) (by omega)
      rw [exact, weightLimit]
      calc vs.sum / c * (1 + roundoff) + xs.length * smallest
          ≤ (1 + roundoff) ^ xs.length * (1 + roundoff) + xs.length * smallest := by gcongr
        _ = (1 + roundoff) ^ (xs.length + 1) + xs.length * smallest := by rw [pow_succ]
        _ ≤ (1 + roundoff) ^ (xs.length + 2) + xs.length * smallest := by linarith

/-- The same weight for every target. -/
theorem addUp_equalWeights {n : ℕ} (nonempty : 0 < n) :
    AddUp (equalWeights n) n := by
  have count : (1 : ℚ) ≤ n := by exact_mod_cast nonempty
  have part := one_le_grown (n + 2)
  have whole : 0 ≤ n * smallest := mul_nonneg (Nat.cast_nonneg _) smallest_nonneg
  have weight : ∃ v, IsAtMost (1.0 / Binary64.ofNat n) v ∧ n * v ≤ weightLimit n := by
    rcases Binary64.ofNat_outcome nonempty with infinite | ⟨c, value, near⟩
    · refine ⟨0, HasValue.isAtMost (Binary64.hasValue_one.div_infinite infinite), ?_⟩
      rw [mul_zero, weightLimit]
      linarith
    · have factor : (0 : ℚ) < (1 + roundoff) ^ 2 := by linarith [one_le_grown 2]
      have pos : 0 < c := by
        by_contra none
        have zero : c = 0 := le_antisymm (not_lt.1 none) value.nonneg
        rw [zero, zero_mul] at near
        linarith
      refine ⟨_, isAtMost_div Binary64.hasValue_one value pos, ?_⟩
      have share : (n : ℚ) * (1 / c) ≤ (1 + roundoff) ^ 2 := by
        rw [mul_one_div, div_le_iff₀ pos, mul_comm]
        exact near
      have grown : (1 + roundoff) ^ 3 ≤ (1 + roundoff) ^ (n + 2) :=
        pow_le_pow_right₀ (by linarith [roundoff_nonneg]) (by omega)
      have step : (0 : ℚ) ≤ 1 + roundoff := by linarith [roundoff_nonneg]
      rw [weightLimit]
      calc (n : ℚ) * (1 / c * (1 + roundoff) + smallest)
          = n * (1 / c) * (1 + roundoff) + n * smallest := by ring
        _ ≤ (1 + roundoff) ^ 2 * (1 + roundoff) + n * smallest := by gcongr
        _ = (1 + roundoff) ^ 3 + n * smallest := by ring
        _ ≤ (1 + roundoff) ^ (n + 2) + n * smallest := by linarith
  obtain ⟨v, most, total⟩ := weight
  refine ⟨length_equalWeights n, List.replicate n v, ?_, ?_⟩
  · rw [equalWeights, List.forall₂_iff_get]
    refine ⟨by simp, ?_⟩
    intro i _ _
    simpa using most
  · rw [List.sum_replicate, nsmul_eq_mul]
    exact total

/-! ## Methods -/

variable {targets : List Target} {raw : List Float} {method : Method}

/-- Whether the bounds of a target are finite numbers that are not negative. -/
def Target.IsBounded (t : Target) : Prop :=
  ∃ low high, HasValue t.minShare low ∧ HasValue t.maxShare high

theorem isFinite_finiteOr {default : Float} (finite : default.isFinite) (x : Float) :
    (finiteOr x default).isFinite := by
  unfold finiteOr
  split
  · assumption
  · exact finite

theorem isNumber_share {total : Float} {n : ℕ} (h : HasValue x a) (sum : IsTotal total b n) :
    IsNumber (x / total) := by
  rcases sum with infinite | ⟨c, value, pos, -⟩
  · exact (h.div_infinite infinite).isNumber
  · exact Binary64.isNumber_div h.isFinite value pos

/-- Weights that are scaled, limited by bounds between zero and one and scaled again. -/
theorem addUp_clipAndScale? {ws : List Float} (bounded : ∀ t ∈ targets, t.IsBounded)
    (nonempty : targets ≠ []) (same : raw.length = targets.length)
    (values : ∀ r ∈ raw, ∃ v, HasValue r v) (h : clipAndScale? targets raw = some ws) :
    AddUp ws targets.length := by
  have count : 0 < targets.length := List.length_pos_iff.2 nonempty
  obtain ⟨vs, valued⟩ := exists_images values
  unfold clipAndScale? at h
  dsimp only at h
  split at h
  · cases h
    exact addUp_equalWeights count
  · rename_i proper
    have above : ¬ Binary64.sum raw ≤ 0.0 := by
      intro none
      apply proper
      rw [decide_eq_true none, Bool.or_true]
    obtain ⟨clipped, limited, h⟩ := Option.bind_eq_some_iff.1 h
    have pairs := forall₂_of_mapM limited
    have values' : ∀ w ∈ clipped, ∃ v, HasValue w v := by
      intro w mem
      obtain ⟨⟨t, r⟩, pair, clamped⟩ := exists_source_of_mem pairs mem
      obtain ⟨chosen, weighed⟩ := List.of_mem_zip pair
      obtain ⟨low, high, minimum, maximum⟩ := bounded t chosen
      obtain ⟨v, value⟩ := values r weighed
      have number : IsNumber (r / Binary64.sum raw) :=
        isNumber_share value (isTotal_of_not_le_zero valued above)
      exact Binary64.clamp?_hasValue number minimum maximum clamped
    obtain ⟨vs', valued'⟩ := exists_images values'
    have count' : clipped.length = targets.length := by
      rw [← pairs.length_eq, List.length_zip, same, Nat.min_self]
    split at h
    · cases h
      exact addUp_equalWeights count
    · rename_i above'
      cases h
      rw [← count']
      exact addUp_shares valued' (isTotal_of_not_le_zero valued' above')

theorem hasValue_tenth : ∃ v, HasValue 0.1 v :=
  ⟨_, Binary64.Stands.finite (by decide)⟩

/-- Weights in proportion to the ratio of return to risk. -/
theorem addUp_sharpeWeights? {ws : List Float} (bounded : ∀ t ∈ targets, t.IsBounded)
    (nonempty : targets ≠ []) (h : sharpeWeights? targets = some ws) :
    AddUp ws targets.length := by
  refine addUp_clipAndScale? bounded nonempty (List.length_map _) ?_ h
  intro r mem
  obtain ⟨t, -, rfl⟩ := List.mem_map.1 mem
  obtain ⟨v, tenth⟩ := hasValue_tenth
  have finite := isFinite_finiteOr Binary64.hasValue_zero.isFinite t.figures.sharpeRatio
  obtain ⟨c, value, -⟩ := Binary64.max_hasValue finite tenth
  exact ⟨c, value⟩

theorem hasValue_hundredth : ∃ v, HasValue 0.01 v ∧ 1 / 2 ^ 10 ≤ v := by
  have unpacked : (0.01 : Float).toModel.unpack =
      .finite .positive 5764607523034235 (-59) (by decide) := by
    rfl
  refine ⟨5764607523034235 * 2 ^ (-59 : ℤ), ?_, by norm_num⟩
  unfold HasValue
  rw [unpacked]
  exact Binary64.Stands.finite (by decide)

/-- Weights in inverse proportion to risk. -/
theorem addUp_parityWeights? {ws : List Float} (bounded : ∀ t ∈ targets, t.IsBounded)
    (nonempty : targets ≠ []) (h : parityWeights? targets = some ws) :
    AddUp ws targets.length := by
  refine addUp_clipAndScale? bounded nonempty (List.length_map _) ?_ h
  intro r mem
  obtain ⟨t, -, rfl⟩ := List.mem_map.1 mem
  obtain ⟨v, hundredth, low⟩ := hasValue_hundredth
  have finite := isFinite_finiteOr hundredth.isFinite t.figures.volatility
  obtain ⟨c, value, above⟩ := Binary64.max_hasValue finite hundredth
  have pos : 0 < c := by linarith
  have small : 1 / c ≤ 2 ^ 10 := by
    rw [div_le_iff₀ pos]
    linarith
  rcases Binary64.div_outcome Binary64.hasValue_one value pos with ⟨-, large⟩ | ⟨q, quotient, -⟩
  · have huge : (2 : ℚ) ^ 10 < 2 ^ 1023 := pow_lt_pow_right₀ (by norm_num) (by norm_num)
    exact absurd (huge.trans_le (large.trans small)) (lt_irrefl _)
  · exact ⟨q, quotient⟩

theorem hasValue_kellyWeight (t : Target) : ∃ v, HasValue (kellyWeight t) v := by
  obtain ⟨low, hundredth, -⟩ := hasValue_hundredth
  have quarter : HasValue 0.25 (2 ^ 52 * 2 ^ (-54 : ℤ)) := Binary64.Stands.finite (by decide)
  have ten : HasValue 10.0 ((5 * 2 ^ 50 : ℕ) * 2 ^ (-49 : ℤ)) := Binary64.Stands.finite (by decide)
  have finite := isFinite_finiteOr Binary64.hasValue_zero.isFinite t.figures.sharpeRatio
  have number := Binary64.isNumber_div finite ten (by norm_num)
  have ordered : (0.01 : Float) ≤ 0.25 := by decide
  have limited : ∃ w, Binary64.clamp? (finiteOr t.figures.sharpeRatio 0.0 / 10.0) 0.01 0.25 =
      some w := ⟨_, if_pos ordered⟩
  obtain ⟨w, limited⟩ := limited
  rw [kellyWeight, limited]
  exact Binary64.clamp?_hasValue number hundredth quarter limited

/-- Weights by edge. -/
theorem addUp_kellyWeights (targets : List Target) :
    AddUp (kellyWeights targets) targets.length := by
  have values : ∀ w ∈ targets.map kellyWeight, ∃ v, HasValue w v := by
    intro w mem
    obtain ⟨t, -, rfl⟩ := List.mem_map.1 mem
    exact hasValue_kellyWeight t
  obtain ⟨vs, valued⟩ := exists_images values
  have count : (targets.map kellyWeight).length = targets.length := List.length_map _
  unfold kellyWeights
  dsimp only
  rw [← count]
  generalize targets.map kellyWeight = raw at *
  split
  · rename_i above
    apply addUp_shares valued
    apply isTotal_sum valued
    intro c value
    have one := (Binary64.lt_iff Binary64.hasValue_one value).1 above
    linarith
  · rename_i below
    refine ⟨rfl, vs, valued.imp fun x v value ↦ HasValue.isAtMost value, ?_⟩
    rcases sum_outcome valued with infinite | ⟨c, value, near⟩
    · exact absurd (Binary64.lt_of_infinite infinite Binary64.hasValue_one) below
    · have small : c ≤ 1 := not_lt.1 (mt (Binary64.lt_iff Binary64.hasValue_one value).2 below)
      have grown : (1 + roundoff) ^ raw.length ≤ (1 + roundoff) ^ (raw.length + 2) :=
        pow_le_pow_right₀ (by linarith [roundoff_nonneg]) (by omega)
      have whole : 0 ≤ raw.length * smallest := mul_nonneg (Nat.cast_nonneg _) smallest_nonneg
      calc vs.sum ≤ c * (1 + roundoff) ^ raw.length := near
        _ ≤ 1 * (1 + roundoff) ^ raw.length := by
          gcongr
          linarith [one_le_grown raw.length]
        _ ≤ weightLimit raw.length := by
          rw [weightLimit]
          linarith

/-- The weights of every method. -/
theorem addUp_weights? {ws : List Float} (bounded : ∀ t ∈ targets, t.IsBounded)
    (nonempty : targets ≠ []) (h : weights? method targets = some ws) :
    AddUp ws targets.length := by
  cases method with
  | equalWeight =>
    cases h
    exact addUp_equalWeights (List.length_pos_iff.2 nonempty)
  | sharpeWeighted => exact addUp_sharpeWeights? bounded nonempty h
  | riskParity => exact addUp_parityWeights? bounded nonempty h
  | kelly =>
    cases h
    exact addUp_kellyWeights targets

end TradingDesk.Allocation
