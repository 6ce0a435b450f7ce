import TradingDesk.Proofs.Allocation.Weights
import TradingDesk.Proofs.Decimal.Conversion
import TradingDesk.Proofs.Decimal.FractionDigits

/-!
# Plans and their Budget

The reserve is a share of the budget cut to cents, and every amount is a share of the rest cut to
cents.  Neither is negative, and the reserve is at most the budget.  Truncation alone does not keep
the amounts within the rest, because the weights add up to one only but for their rounding, in
binary and again in decimal.  The budget is exceeded by that part of it at most, which is less than
a cent for budgets up to 2 * 10 ^ 13 divided by the number of targets and nine.  A budget in whole
cents is then kept, since all amounts are in whole cents.
-/

namespace TradingDesk.Allocation

open Binary64 (HasValue IsInfinite roundoff smallest)

/-! ## Amounts -/

section Amounts

variable {x : Float} {v : ℚ} {available amount d : Decimal} {weights : List Float}
  {amounts : List Decimal}

theorem toDecimal_of_not_finite (h : ¬ x.isFinite) : Allocator.toDecimal x = Decimal.zero := by
  have known : (!x.isFinite) = true := by
    rw [Bool.not_eq_true] at h
    rw [h]
    rfl
  rw [Allocator.toDecimal, Decimal.ofFloat?, if_pos known]
  rfl

/-- The decimal of a weight. -/
theorem toDecimal_bounds {a : ℚ} (h : HasValue x a) :
    0 ≤ (Allocator.toDecimal x).value ∧
      (Allocator.toDecimal x).value * (1 - 1 / (8 * 10 ^ 14)) ≤ a + 1 / 10 ^ 28 ∧
      ∀ n : ℕ, a ≤ n → (Allocator.toDecimal x).value ≤ n := by
  cases made : Decimal.ofFloat? x with
  | none =>
    have zero : Allocator.toDecimal x = Decimal.zero := by
      rw [Allocator.toDecimal, made]
      rfl
    have part : (0 : ℚ) ≤ 1 / 10 ^ 28 := by positivity
    rw [zero, Decimal.value_zero, zero_mul]
    exact ⟨le_rfl, by linarith [h.nonneg], fun n _ ↦ Nat.cast_nonneg n⟩
  | some d =>
    have same : Allocator.toDecimal x = d := by
      rw [Allocator.toDecimal, made]
      rfl
    rw [same]
    exact Decimal.ofFloat?_bounds h made

theorem toDecimal_isAtMost (h : IsAtMost x v) :
    0 ≤ (Allocator.toDecimal x).value ∧
      (Allocator.toDecimal x).value * (1 - 1 / (8 * 10 ^ 14)) ≤ v + 1 / 10 ^ 28 := by
  obtain ⟨nonneg, infinite | ⟨c, value, most⟩⟩ := h
  · have zero := toDecimal_of_not_finite fun finite ↦
      Binary64.not_isInfinite_of_isFinite finite infinite
    have part : (0 : ℚ) ≤ 1 / 10 ^ 28 := by positivity
    rw [zero, Decimal.value_zero, zero_mul]
    exact ⟨le_rfl, by linarith⟩
  · obtain ⟨below, above, -⟩ := toDecimal_bounds value
    exact ⟨below, by linarith⟩

/-- A whole number of cents. -/
def InCents (q : ℚ) : Prop :=
  ∃ n : ℤ, q = n / 100

theorem InCents.add {p q : ℚ} (hp : InCents p) (hq : InCents q) : InCents (p + q) := by
  obtain ⟨m, rfl⟩ := hp
  obtain ⟨n, rfl⟩ := hq
  exact ⟨m + n, by push_cast; ring⟩

theorem inCents_sum {amounts : List Decimal} (h : ∀ amount ∈ amounts, InCents amount.value) :
    InCents (amounts.map Decimal.value).sum := by
  induction amounts with
  | nil => exact ⟨0, by simp⟩
  | cons amount amounts ih =>
    obtain ⟨first, rest⟩ := List.forall_mem_cons.1 h
    exact first.add (ih rest)

theorem inCents_iff_hasDigits {q : ℚ} : InCents q ↔ Decimal.HasDigits 2 q := by
  norm_num [InCents, Decimal.HasDigits]

/-- Less than a cent does not lead from one whole number of cents to a larger one. -/
theorem InCents.le_of_lt_add {p q : ℚ} (hp : InCents p) (hq : InCents q) (h : p < q + 1 / 100) :
    p ≤ q := by
  rw [inCents_iff_hasDigits] at hp hq
  apply hp.le_of_lt_add hq
  norm_num
  linarith

theorem inCents_cents (nonneg : 0 ≤ d.value) : InCents (Allocator.cents d).value := by
  obtain ⟨n, value, -⟩ := Decimal.value_truncate nonneg 2
  exact ⟨n, value.trans (by norm_num)⟩

/-- The part of an amount that the precision of decimals leaves. -/
def kept : ℚ := (1 - 1 / 10 ^ 27) * (1 - 1 / (8 * 10 ^ 14))

/-- An amount is at most its weight of the capital available, but for the precision of decimals. -/
theorem amount_bounds (nonneg : 0 ≤ available.value) (weight : IsAtMost x v)
    (h : (Decimal.mul? available (Allocator.toDecimal x)).map Allocator.cents = some amount) :
    (0 ≤ amount.value ∧ InCents amount.value) ∧
      amount.value * kept ≤ available.value * (v + 1 / 10 ^ 28) + 1 / 10 ^ 28 := by
  obtain ⟨p, product, rfl⟩ := Option.map_eq_some_iff.1 h
  obtain ⟨below, above⟩ := toDecimal_isAtMost weight
  have whole := Decimal.mul?_nonneg nonneg below product
  have bound := Decimal.mul?_le nonneg below product
  have cut := Decimal.truncate_le whole 2
  refine ⟨⟨Decimal.truncate_nonneg whole 2, inCents_cents whole⟩, ?_⟩
  have factor : (0 : ℚ) ≤ 1 - 1 / (8 * 10 ^ 14) := by norm_num
  have factor' : (0 : ℚ) ≤ kept := by norm_num [kept]
  calc (Allocator.cents p).value * kept ≤ p.value * kept := mul_le_mul_of_nonneg_right cut factor'
    _ = p.value * (1 - 1 / 10 ^ 27) * (1 - 1 / (8 * 10 ^ 14)) := by rw [kept, mul_assoc]
    _ ≤ (available.value * (Allocator.toDecimal x).value + 1 / 10 ^ 28) *
        (1 - 1 / (8 * 10 ^ 14)) := by gcongr
    _ = available.value * ((Allocator.toDecimal x).value * (1 - 1 / (8 * 10 ^ 14))) +
        1 / 10 ^ 28 * (1 - 1 / (8 * 10 ^ 14)) := by ring
    _ ≤ available.value * (v + 1 / 10 ^ 28) + 1 / 10 ^ 28 := by
      gcongr
      norm_num

/-- The amounts of a list of weights. -/
theorem amounts?_bounds {n : ℕ} (nonneg : 0 ≤ available.value) (weighed : AddUp weights n)
    (h : Allocator.amounts? available weights = some amounts) :
    amounts.length = n ∧ (∀ amount ∈ amounts, 0 ≤ amount.value ∧ InCents amount.value) ∧
      (amounts.map Decimal.value).sum * kept ≤
        available.value * (weightLimit n + n * (1 / 10 ^ 28)) + n * (1 / 10 ^ 28) := by
  obtain ⟨count, vs, most, sum⟩ := weighed
  have pairs := forall₂_of_mapM h
  have same : amounts.length = n := pairs.length_eq.symm.trans count
  have bounds : (∀ amount ∈ amounts, 0 ≤ amount.value ∧ InCents amount.value) ∧
      (amounts.map Decimal.value).sum * kept ≤
        available.value * (vs.sum + amounts.length * (1 / 10 ^ 28)) +
          amounts.length * (1 / 10 ^ 28) := by
    clear h sum count same
    induction pairs generalizing vs with
    | nil =>
      cases most
      simp
    | @cons x amount xs amounts first rest ih =>
      cases most with
      | @cons _ v _ vs weight weights =>
        obtain ⟨single, bound⟩ := amount_bounds nonneg weight first
        obtain ⟨others, bounds⟩ := ih vs weights
        refine ⟨List.forall_mem_cons.2 ⟨single, others⟩, ?_⟩
        rw [List.map_cons, List.sum_cons, List.sum_cons, List.length_cons]
        push_cast
        linarith
  rw [same] at bounds
  refine ⟨same, bounds.1, bounds.2.trans ?_⟩
  gcongr

end Amounts

/-! ## Reachable allocators -/

namespace Allocator

variable {a b : Allocator} {method : Method} {filter : Option TargetType} {now : Instant}
  {plan : Plan} {amounts : List Decimal} {reserve available : Decimal}

/-- The allocators that calls lead to from one without targets. -/
inductive Reachable : Allocator → Prop
  | new (settings : Settings) : Reachable (new settings)
  | add {a b : Allocator} {t : Target} : Reachable a → a.add t = .ok b → Reachable b
  | remove {a : Allocator} (id : String) : Reachable a → Reachable (a.remove id).1
  | setActive {a b : Allocator} {id : String} {active : Bool} :
      Reachable a → a.setActive id active = .ok b → Reachable b
  | setTotalCapital {a : Allocator} (total : Decimal) :
      Reachable a → Reachable (a.setTotalCapital total)
  | updatePerformance {a b : Allocator} {id : String} {returns : List Float} {now : Instant} :
      Reachable a → a.updatePerformance id returns now = .ok b → Reachable b
  | makePlan? {a b : Allocator} {method : Method} {filter : Option TargetType} {now : Instant}
      {plan : Plan} : Reachable a → a.makePlan? method filter now = some (.ok (b, plan)) →
        Reachable b
  | applyPlan {a b : Allocator} {plan : Plan} :
      Reachable a → a.applyPlan plan = .ok b → Reachable b

theorem isBounded_of_validBounds {t : Target} (h : validBounds t.minShare t.maxShare) :
    t.IsBounded := by
  simp only [validBounds, Bool.and_eq_true, decide_eq_true_eq] at h
  obtain ⟨⟨⟨⟨low, high⟩, low'⟩, high'⟩, -⟩ := h
  obtain ⟨v, minimum⟩ := Binary64.hasValue_of_bounds low high
  obtain ⟨w, maximum⟩ := Binary64.hasValue_of_bounds low' high'
  exact ⟨v, w, minimum, maximum⟩

/-- Whether the bounds of all targets lie between zero and one and are ordered. -/
def IsValid (a : Allocator) : Prop :=
  ∀ t ∈ a.targets, validBounds t.minShare t.maxShare

/-- Whether all targets have bounds that are finite and not negative. -/
def IsBounded (a : Allocator) : Prop :=
  ∀ t ∈ a.targets, t.IsBounded

theorem isValid_map {f : Target → Target}
    (same : ∀ t, (f t).minShare = t.minShare ∧ (f t).maxShare = t.maxShare)
    (h : a.IsValid) {b : Allocator} (changed : b.targets = a.targets.map f) : b.IsValid := by
  intro t mem
  rw [changed] at mem
  obtain ⟨u, held, rfl⟩ := List.mem_map.1 mem
  rw [(same u).1, (same u).2]
  exact h u held

theorem isValid_modify {id : String} {f : Target → Target}
    (same : ∀ t, (f t).minShare = t.minShare ∧ (f t).maxShare = t.maxShare)
    (h : a.IsValid) (changed : a.modify id f = .ok b) : b.IsValid := by
  obtain ⟨-, rfl⟩ := modify_cases changed
  refine isValid_map ?_ h rfl
  intro t
  split
  · exact same t
  · exact ⟨rfl, rfl⟩

theorem isValid_add {t : Target} (h : a.IsValid) (added : a.add t = .ok b) : b.IsValid := by
  obtain ⟨valid, rfl⟩ := add_cases added
  intro u mem
  rcases List.mem_append.1 mem with before | rest
  · exact h u (List.mem_of_mem_filter before)
  · rcases List.mem_cons.1 rest with rfl | after
    · exact valid
    · exact h u (List.mem_of_mem_filter after)

/-- Reachable allocators hold targets whose bounds were tested when they were added. -/
theorem Reachable.isValid (h : a.Reachable) : a.IsValid := by
  induction h with
  | new => exact List.forall_mem_nil _
  | add _ added ih => exact isValid_add ih added
  | remove id _ ih =>
    intro t mem
    exact ih t (List.mem_of_mem_filter mem)
  | setActive _ changed ih =>
    refine isValid_modify ?_ ih changed
    exact fun t ↦ ⟨rfl, rfl⟩
  | setTotalCapital total _ ih => exact ih
  | updatePerformance _ changed ih =>
    refine isValid_modify ?_ ih changed
    exact fun t ↦ ⟨rfl, rfl⟩
  | makePlan? _ made ih =>
    obtain ⟨-, rfl⟩ := makePlan?_cases made
    refine isValid_map ?_ ih rfl
    intro t
    split <;> exact ⟨rfl, rfl⟩
  | applyPlan _ applied ih =>
    obtain ⟨-, rfl⟩ := applyPlan_cases applied
    refine isValid_map ?_ ih rfl
    intro t
    split <;> exact ⟨rfl, rfl⟩

theorem Reachable.isBounded (h : a.Reachable) : a.IsBounded := by
  intro t mem
  exact isBounded_of_validBounds (h.isValid t mem)

/-- Plans are made over targets. -/
theorem selected_ne_nil (h : a.makePlan? method filter now = some (.ok (b, plan))) :
    a.selected filter ≠ [] := by
  intro none
  rw [Allocator.makePlan?, none] at h
  cases h

/-! ## Reserve and rest -/

theorem budget_nonneg (a : Allocator) : 0 ≤ a.budget.value := by
  rw [budget, Decimal.value_max, Decimal.value_zero]
  exact le_max_right _ _

/-- A share between zero and one has a decimal between zero and one, or is no number at all. -/
theorem toDecimal_share {x share : Float} (h : Binary64.clamp? x 0.0 1.0 = some share) :
    0 ≤ (toDecimal share).value ∧ (toDecimal share).value ≤ 1 := by
  by_cases finite : share.isFinite
  · have value : ∃ c, HasValue share c ∧ c ≤ 1 := by
      unfold Binary64.clamp? at h
      split at h
      · cases h
        split
        · exact ⟨0, Binary64.hasValue_zero, zero_le_one⟩
        · rename_i above
          split
          · exact ⟨1, Binary64.hasValue_one, le_rfl⟩
          · rename_i below
            rw [if_neg above, if_neg below] at finite
            have number := Binary64.isNumber_of_isFinite finite
            obtain ⟨c, value⟩ :=
              (Binary64.hasValue_of_not_lt number Binary64.hasValue_zero above).resolve_left
                (Binary64.not_isInfinite_of_isFinite finite)
            exact ⟨c, value, not_lt.1 (mt (Binary64.lt_iff Binary64.hasValue_one value).2 below)⟩
      · cases h
    obtain ⟨c, value, most⟩ := value
    obtain ⟨nonneg, -, whole⟩ := toDecimal_bounds value
    have one := whole 1 (most.trans_eq Nat.cast_one.symm)
    exact ⟨nonneg, one.trans_eq Nat.cast_one⟩
  · rw [toDecimal_of_not_finite finite, Decimal.value_zero]
    exact ⟨le_rfl, zero_le_one⟩

/-- The reserve is not negative and at most the budget. -/
theorem reserve?_bounds (h : a.reserve? = some reserve) :
    0 ≤ reserve.value ∧ reserve.value ≤ a.budget.value ∧ InCents reserve.value := by
  unfold reserve? at h
  obtain ⟨share, clamped, h⟩ := Option.bind_eq_some_iff.1 h
  obtain ⟨p, product, rfl⟩ := Option.map_eq_some_iff.1 h
  obtain ⟨nonneg, most⟩ := toDecimal_share clamped
  have whole := Decimal.mul?_nonneg a.budget_nonneg nonneg product
  have part := Decimal.mul?_le_left a.budget_nonneg nonneg most product
  exact ⟨Decimal.truncate_nonneg whole 2, (Decimal.truncate_le whole 2).trans part,
    inCents_cents whole⟩

end Allocator

/-! ## Budgets -/

namespace Plan

/-- What a plan holds back and gives away. -/
def committed (p : Plan) : ℚ :=
  p.reserveCapital.value + (p.allocations.map fun entry ↦ entry.2.value).sum

end Plan

/-- The part of a budget that plans over a number of targets can exceed it by. -/
def roundingExcess (total : ℚ) (targets : ℕ) : ℚ :=
  total * ((1 + roundoff) ^ (targets + 9) - 1) + targets * (total + 1) / 10 ^ 27

theorem one_le_kept_mul : 1 ≤ kept * (1 - 1 / 10 ^ 27) * (1 + roundoff) ^ 7 := by
  norm_num [kept, roundoff]

theorem tiny_le : (1 + roundoff) ^ 7 * (smallest + 1 / 10 ^ 28) ≤ 1 / 10 ^ 27 := by
  have subnormal : smallest ≤ 1 / 10 ^ 28 := by
    unfold smallest
    apply one_div_le_one_div_of_le (by positivity)
    calc (10 : ℚ) ^ 28 ≤ 2 ^ 100 := by norm_num
      _ ≤ 2 ^ 1074 := pow_le_pow_right₀ (by norm_num) (by norm_num)
  calc (1 + roundoff) ^ 7 * (smallest + 1 / 10 ^ 28)
      ≤ (1 + roundoff) ^ 7 * (1 / 10 ^ 28 + 1 / 10 ^ 28) := by
        apply mul_le_mul_of_nonneg_left (by linarith)
        linarith [one_le_grown 7]
    _ ≤ 1 / 10 ^ 27 := by norm_num [roundoff]

theorem grown_sub_one_le (k : ℕ) :
    ((1 + roundoff) ^ k - 1) * (1 - k * roundoff) ≤ k * roundoff := by
  have bernoulli : 1 + (k : ℚ) * -roundoff ≤ (1 + -roundoff) ^ k :=
    one_add_mul_le_pow (by norm_num [roundoff]) k
  have grown := one_le_grown k
  have product : (1 + roundoff) ^ k * (1 + -roundoff) ^ k ≤ 1 := by
    rw [← mul_pow]
    exact pow_le_one₀ (by norm_num [roundoff]) (by norm_num [roundoff])
  have shrunk : (1 + roundoff) ^ k * (1 + (k : ℚ) * -roundoff) ≤ 1 :=
    (mul_le_mul_of_nonneg_left bernoulli (by linarith)).trans product
  linarith

/-- The excess is less than a cent for budgets that are not too large. -/
theorem roundingExcess_lt {total : ℚ} {n : ℕ} (nonneg : 0 ≤ total)
    (small : (total + 1) * (n + 9) ≤ 4 * 10 ^ 13) : roundingExcess total n < 1 / 100 := by
  have targets : (0 : ℚ) ≤ n := Nat.cast_nonneg n
  have count : (n : ℚ) + 9 ≤ 4 * 10 ^ 13 := by nlinarith
  have product : total * (n + 9) ≤ 4 * 10 ^ 13 := by nlinarith
  have product' : n * (total + 1) ≤ 4 * 10 ^ 13 := by nlinarith
  have growth := grown_sub_one_le (n + 9)
  have grown := one_le_grown (n + 9)
  push_cast at growth
  rw [roundingExcess]
  generalize (1 + roundoff) ^ (n + 9) = g at *
  have excess : 0 ≤ total * (g - 1) := mul_nonneg nonneg (by linarith)
  have scaled : total * (g - 1) * (1 - (n + 9) * roundoff) ≤ total * (n + 9) * roundoff := by
    have step := mul_le_mul_of_nonneg_left growth nonneg
    linarith
  have part : (n + 9) * roundoff ≤ 9 / 1000 := by
    calc (n + 9) * roundoff ≤ 4 * 10 ^ 13 * roundoff := by
          have pos := roundoff_nonneg
          gcongr
      _ ≤ 9 / 1000 := by norm_num [roundoff]
  have part' : total * (n + 9) * roundoff ≤ 89 / 10000 := by
    calc total * (n + 9) * roundoff ≤ 4 * 10 ^ 13 * roundoff := by
          have pos := roundoff_nonneg
          gcongr
      _ ≤ 89 / 10000 := by norm_num [roundoff]
  have main : total * (g - 1) * (991 / 1000) ≤ 89 / 10000 := by
    have lower : (991 : ℚ) / 1000 ≤ 1 - (n + 9) * roundoff := by linarith
    have step := mul_le_mul_of_nonneg_left lower excess
    linarith
  have rest : n * (total + 1) / 10 ^ 27 ≤ 1 / 10 ^ 12 := by
    rw [div_le_div_iff₀ (by positivity) (by positivity)]
    linarith
  linarith

theorem weightLimit_nonneg (n : ℕ) : 0 ≤ weightLimit n + n * (1 / 10 ^ 28) := by
  have unit : 0 ≤ n * (1 / 10 ^ 28 : ℚ) := by positivity
  have grown := one_le_grown (n + 2)
  have tiny := mul_nonneg (Nat.cast_nonneg n : (0 : ℚ) ≤ n) smallest_nonneg
  rw [weightLimit]
  linarith

/-- What the weights of an amount come to, once the losses of the conversion are made up for. -/
theorem grown_weights_le {left : ℚ} (nonneg : 0 ≤ left) (n : ℕ) :
    (1 + roundoff) ^ 7 * (left * (weightLimit n + n * (1 / 10 ^ 28)) + n * (1 / 10 ^ 28)) ≤
      left * (1 + roundoff) ^ (n + 9) + left * n * (1 / 10 ^ 27) + n * (1 / 10 ^ 27) := by
  have count : (0 : ℚ) ≤ n := Nat.cast_nonneg n
  have power : (1 + roundoff) ^ (n + 9) = (1 + roundoff) ^ 7 * (1 + roundoff) ^ (n + 2) := by
    rw [← pow_add]
    congr 1
    omega
  have parts : left * n * ((1 + roundoff) ^ 7 * (smallest + 1 / 10 ^ 28)) ≤
      left * n * (1 / 10 ^ 27) :=
    mul_le_mul_of_nonneg_left tiny_le (mul_nonneg nonneg count)
  have units : n * ((1 + roundoff) ^ 7 * (1 / 10 ^ 28)) ≤ n * (1 / 10 ^ 27) := by
    have single : (1 + roundoff) ^ 7 * (1 / 10 ^ 28) ≤ 1 / 10 ^ 27 := by norm_num [roundoff]
    exact mul_le_mul_of_nonneg_left single count
  calc (1 + roundoff) ^ 7 * (left * (weightLimit n + n * (1 / 10 ^ 28)) + n * (1 / 10 ^ 28))
      = left * (1 + roundoff) ^ (n + 9) +
          left * n * ((1 + roundoff) ^ 7 * (smallest + 1 / 10 ^ 28)) +
          n * ((1 + roundoff) ^ 7 * (1 / 10 ^ 28)) := by
        rw [power, weightLimit]
        ring
    _ ≤ left * (1 + roundoff) ^ (n + 9) + left * n * (1 / 10 ^ 27) + n * (1 / 10 ^ 27) := by
        linarith

/-- Amounts that are at most weights of the rest of a budget exceed the rest by the excess of
rounding at most. -/
theorem add_le_roundingExcess {total reserve rest sum : ℚ} {n : ℕ} (held : 0 ≤ reserve)
    (nonneg : 0 ≤ sum) (nonneg' : 0 ≤ rest) (bound : rest * (1 - 1 / 10 ^ 27) ≤ total - reserve)
    (weighed : sum * kept ≤ rest * (weightLimit n + n * (1 / 10 ^ 28)) + n * (1 / 10 ^ 28)) :
    reserve + sum ≤ total + roundingExcess total n := by
  have precision : (0 : ℚ) ≤ 1 - 1 / 10 ^ 27 := by norm_num
  have left : 0 ≤ total - reserve := (mul_nonneg nonneg' precision).trans bound
  have scaled : sum * kept * (1 - 1 / 10 ^ 27) ≤
      (total - reserve) * (weightLimit n + n * (1 / 10 ^ 28)) + n * (1 / 10 ^ 28) := by
    calc sum * kept * (1 - 1 / 10 ^ 27)
        ≤ (rest * (weightLimit n + n * (1 / 10 ^ 28)) + n * (1 / 10 ^ 28)) *
            (1 - 1 / 10 ^ 27) := by gcongr
      _ = rest * (1 - 1 / 10 ^ 27) * (weightLimit n + n * (1 / 10 ^ 28)) +
            n * (1 / 10 ^ 28) * (1 - 1 / 10 ^ 27) := by ring
      _ ≤ (total - reserve) * (weightLimit n + n * (1 / 10 ^ 28)) + n * (1 / 10 ^ 28) := by
        have unit : 0 ≤ n * (1 / 10 ^ 28 : ℚ) := by positivity
        have most := mul_le_mul_of_nonneg_right bound (weightLimit_nonneg n)
        linarith
  have factor : (0 : ℚ) ≤ (1 + roundoff) ^ 7 := by linarith [one_le_grown 7]
  have expanded : sum ≤ (total - reserve) * (1 + roundoff) ^ (n + 9) +
      (total - reserve) * n * (1 / 10 ^ 27) + n * (1 / 10 ^ 27) := by
    calc sum = sum * 1 := (mul_one sum).symm
      _ ≤ sum * (kept * (1 - 1 / 10 ^ 27) * (1 + roundoff) ^ 7) :=
        mul_le_mul_of_nonneg_left one_le_kept_mul nonneg
      _ = (1 + roundoff) ^ 7 * (sum * kept * (1 - 1 / 10 ^ 27)) := by ring
      _ ≤ (1 + roundoff) ^ 7 *
          ((total - reserve) * (weightLimit n + n * (1 / 10 ^ 28)) + n * (1 / 10 ^ 28)) :=
        mul_le_mul_of_nonneg_left scaled factor
      _ ≤ _ := grown_weights_le left n
  have reserved : reserve ≤ reserve * (1 + roundoff) ^ (n + 9) := by
    have part := mul_le_mul_of_nonneg_left (one_le_grown (n + 9)) held
    linarith
  have unreserved : 0 ≤ reserve * n * (1 / 10 ^ 27) := by positivity
  rw [roundingExcess]
  linarith

namespace Allocator

variable {a b : Allocator} {method : Method} {filter : Option TargetType} {now : Instant}
  {plan : Plan}

/-- A plan is not negative anywhere, holds back no more than its budget, and exceeds it by the
rounding of its weights at most.  A budget in whole cents that is not too large is kept. -/
theorem plans_keep_budget_but_for_rounding (reached : a.Reachable)
    (made : a.makePlan? method filter now = some (.ok (b, plan))) :
    (0 ≤ plan.reserveCapital.value ∧ ∀ entry ∈ plan.allocations, 0 ≤ entry.2.value) ∧
      plan.reserveCapital.value ≤ plan.totalCapital.value ∧
      plan.committed ≤ plan.totalCapital.value +
        roundingExcess plan.totalCapital.value plan.allocations.length ∧
      (InCents plan.totalCapital.value →
        (plan.totalCapital.value + 1) * (plan.allocations.length + 9) ≤ 4 * 10 ^ 13 →
          plan.committed ≤ plan.totalCapital.value) := by
  obtain ⟨planned, -⟩ := makePlan?_cases made
  obtain ⟨available, weights, amounts, parts⟩ := planOver?_parts planned
  have bounded : ∀ t ∈ a.selected filter, t.IsBounded := by
    intro t mem
    exact reached.isBounded t (List.mem_of_mem_filter mem)
  have weighed := addUp_weights? bounded (selected_ne_nil made) parts.weighed
  obtain ⟨held, within, wholeReserve⟩ := reserve?_bounds parts.reserved
  obtain ⟨nonneg, rest⟩ := Decimal.sub?_bounds held within parts.rest
  obtain ⟨count, single, sum⟩ := amounts?_bounds nonneg weighed parts.shared
  have entries : plan.allocations.map (·.2) = amounts := by
    rw [parts.funded]
    apply List.map_snd_zip
    rw [List.length_map, count]
  have targets : plan.allocations.length = (a.selected filter).length := by
    rw [← count, ← entries, List.length_map]
  have values : plan.allocations.map (fun entry ↦ entry.2.value) = amounts.map Decimal.value := by
    rw [← entries, List.map_map]
    rfl
  have committed : plan.committed =
      plan.reserveCapital.value + (amounts.map Decimal.value).sum := by
    rw [Plan.committed, values]
  have positive : 0 ≤ (amounts.map Decimal.value).sum := by
    apply List.sum_nonneg
    intro v mem
    obtain ⟨amount, given, rfl⟩ := List.mem_map.1 mem
    exact (single amount given).1
  have whole : InCents plan.committed := by
    rw [committed]
    exact wholeReserve.add (inCents_sum fun amount mem ↦ (single amount mem).2)
  have excess := add_le_roundingExcess held positive nonneg rest sum
  rw [← committed, ← targets, ← parts.total] at excess
  rw [← parts.total] at within
  refine ⟨⟨held, ?_⟩, within, excess, ?_⟩
  · intro entry mem
    have given : entry.2 ∈ amounts := by
      rw [← entries]
      exact List.mem_map_of_mem mem
    exact (single entry.2 given).1
  · intro cents small
    apply whole.le_of_lt_add cents
    have few := roundingExcess_lt (held.trans within) small
    linarith

/-! ## Six equal targets -/

/-- A budget without reserve and six targets. -/
def sixTargets (budget : Decimal) : Except Error Allocator :=
  ["a", "b", "c", "d", "e", "f"].foldlM (fun a id ↦ a.add (idle id .strategy 0.0)) <|
    new { Settings.standard with totalCapital := budget, reserveShare := 0.0 }

theorem reachable_foldlM {ids : List String} (start : a.Reachable)
    (h : ids.foldlM (fun a id ↦ a.add (idle id .strategy 0.0)) a = .ok b) : b.Reachable := by
  induction ids generalizing a with
  | nil =>
    cases h
    exact start
  | cons id ids ih =>
    rw [List.foldlM_cons] at h
    cases added : a.add (idle id .strategy 0.0) with
    | error => rw [added] at h; cases h
    | ok c =>
      rw [added] at h
      exact ih (start.add added) h

theorem reachable_sixTargets {budget : Decimal} (h : sixTargets budget = .ok a) : a.Reachable :=
  reachable_foldlM (Reachable.new _) h

/-- The equal plan over six targets: its budget, its reserve and its amounts. -/
def sixEqual? (budget : Decimal) : Option (Decimal × Decimal × List Decimal) :=
  match sixTargets budget with
  | .error _ => none
  | .ok a =>
    match a.makePlan? .equalWeight none Instant.epoch with
    | some (.ok (_, plan)) =>
      some (plan.totalCapital, plan.reserveCapital, plan.allocations.map (·.2))
    | _ => none

theorem exists_sixEqual {budget total reserve : Decimal} {amounts : List Decimal}
    (h : sixEqual? budget = some (total, reserve, amounts)) :
    ∃ a b plan, sixTargets budget = .ok a ∧
      a.makePlan? .equalWeight none Instant.epoch = some (.ok (b, plan)) ∧
      plan.totalCapital = total ∧ plan.reserveCapital = reserve ∧
      plan.allocations.map (·.2) = amounts := by
  unfold sixEqual? at h
  split at h
  · cases h
  · rename_i a added
    split at h
    · rename_i b plan made
      cases h
      exact ⟨a, b, plan, added, made, rfl, rfl, rfl⟩
    · cases h

/-- Amounts cut to cents can exceed the budget. -/
theorem amounts_can_exceed_budget : ∃ (a b : Allocator) (plan : Plan), a.Reachable ∧
    a.makePlan? .equalWeight none Instant.epoch = some (.ok (b, plan)) ∧
      plan.totalCapital.value < plan.committed := by
  have ran : sixEqual? (Decimal.const (6 * 10 ^ 15) 0) = some (Decimal.const (6 * 10 ^ 15) 0,
      Decimal.zero, List.replicate 6 (Decimal.const 100000000000000020 2)) := by
    decide +kernel
  obtain ⟨a, b, plan, added, made, total, reserve, amounts⟩ := exists_sixEqual ran
  refine ⟨a, b, plan, reachable_sixTargets added, made, ?_⟩
  have values : plan.allocations.map (fun entry ↦ entry.2.value) =
      (plan.allocations.map (·.2)).map Decimal.value := by
    rw [List.map_map]
    rfl
  rw [Plan.committed, total, reserve, values, amounts, Decimal.value_zero, List.map_replicate,
    Decimal.value_const (by decide) (by decide), Decimal.value_const (by decide) (by decide)]
  norm_num

/-- A budget of a thousand is kept when it is divided among six targets. -/
theorem plans_keep_budget_thousand : ∃ (a b : Allocator) (plan : Plan), a.Reachable ∧
    a.makePlan? .equalWeight none Instant.epoch = some (.ok (b, plan)) ∧
      plan.totalCapital.value = 1000 ∧ plan.allocations.length = 6 ∧
      plan.committed ≤ plan.totalCapital.value := by
  have ran : sixEqual? (Decimal.const 1000 0) = some (Decimal.const 1000 0,
      Decimal.zero, List.replicate 6 (Decimal.const 16666 2)) := by
    decide +kernel
  obtain ⟨a, b, plan, added, made, total, -, amounts⟩ := exists_sixEqual ran
  have reached := reachable_sixTargets added
  have thousand : plan.totalCapital.value = 1000 := by
    rw [total, Decimal.value_const (by decide) (by decide)]
    norm_num
  have count : plan.allocations.length = 6 := by
    rw [← List.length_map, amounts, List.length_replicate]
  obtain ⟨-, -, -, keeps⟩ := plans_keep_budget_but_for_rounding reached made
  refine ⟨a, b, plan, reached, made, thousand, count, keeps ?_ ?_⟩
  · exact ⟨100000, by rw [thousand]; norm_num⟩
  · rw [thousand, count]
    norm_num

end Allocator

end TradingDesk.Allocation
