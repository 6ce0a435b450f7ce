import TradingDesk.Proofs.Decimal.Quotient
import TradingDesk.Proofs.Execution.Step

/-!
# Sales off a Position

An exit orders a share of the quantity at entry, rounded to eight fraction digits, and takes a
fraction off the position: the part of the quantity at entry that was filled, but no more than the
fraction that was asked for and no more than what is open.  The two are computed apart.  Where the
rounding goes up, the order sells more than the fraction accounts for, and the difference is the
surplus of the sale.

What was sold of a position stays within its quantity exactly as long as the surpluses together stay
within what the remaining fraction still accounts for.
-/

namespace TradingDesk.Execution

open Engine

/-- An exit of a position that was filled: the position before it, the fraction that was asked for,
the quantity that was sold and the fraction that was taken off. -/
structure Sale where
  position : Position
  fraction : Decimal
  quantity : Decimal
  taken : Decimal

/-- What a sale sold beyond the share of the quantity at entry that it took off. -/
def Sale.surplus (s : Sale) : ℚ :=
  s.quantity.value - s.position.quantity.value * s.taken.value

/-- Sales off a position, one after another, whose orders are filled as they are, up to the position
that they leave. -/
inductive Course : Position → List Sale → Position → Prop
  | idle (p : Position) : Course p [] p
  | sale {p after last : Position} {x : Exit} {order : Order.Request} {fill : Order.Confirmed}
      {filled : Decimal} {rest : List Sale} (inside : IsFraction x.fraction)
      (opened : p.isClosed = false) (ordered : exitOrder? p x = some order)
      (exact : fill.quantity = order.quantity)
      (divided : filledFraction? p x.fraction fill = some filled)
      (reduced : afterExit? p x fill = some after) (more : Course after rest last) :
      Course p (⟨p, x.fraction, fill.quantity, p.removable filled⟩ :: rest) last

/-! ## Conservation -/

/-- Whether the remaining fraction of a position is between zero and one. -/
def HasShare (p : Position) : Prop :=
  0 ≤ p.remaining.value ∧ p.remaining.value ≤ 1

theorem value_removable (p : Position) (fraction : Decimal) :
    (p.removable fraction).value = max (min fraction.value p.remaining.value) 0 := by
  rw [Position.removable, Decimal.value_max, Decimal.value_min, Decimal.value_zero]

/-- An exit leaves the place of a position in the book and its side. -/
theorem afterExit?_key {p after : Position} {x : Exit} {fill : Order.Confirmed}
    (h : afterExit? p x fill = some after) :
    after.user = p.user ∧ after.symbol = p.symbol ∧ after.side = p.side := by
  rw [afterExit?_eq h]
  exact ⟨rfl, rfl, rfl⟩

/-- An exit takes its fraction off the remaining one and leaves the quantity at entry. -/
theorem afterExit?_share {p after : Position} {x : Exit} {fill : Order.Confirmed}
    {filled : Decimal} (share : HasShare p)
    (divided : filledFraction? p x.fraction fill = some filled)
    (reduced : afterExit? p x fill = some after) :
    HasShare after ∧ after.quantity = p.quantity ∧
      after.remaining.value = p.remaining.value - (p.removable filled).value := by
  obtain ⟨filled', divided', reduced⟩ := Option.bind_eq_some_iff.1 reduced
  obtain rfl : filled' = filled := Option.some.inj (divided'.symm.trans divided)
  obtain ⟨q, reduce, marked⟩ := Option.bind_eq_some_iff.1 reduced
  obtain ⟨remaining, subtracted, reduce⟩ := Option.bind_eq_some_iff.1 reduce
  cases reduce
  have least : 0 ≤ (p.removable filled').value := by
    rw [value_removable]
    exact le_max_right _ _
  have most : (p.removable filled').value ≤ p.remaining.value := by
    rw [value_removable]
    exact max_le (min_le_right _ _) share.1
  have small : |p.remaining.value - (p.removable filled').value| ≤ 1 := by
    rw [abs_le]
    constructor <;> linarith [share.1, share.2]
  have difference := Decimal.value_sub? small subtracted
  have fields : after.quantity = p.quantity ∧ after.remaining = remaining := by
    cases marked
    split <;> exact ⟨rfl, rfl⟩
  obtain ⟨quantity, same⟩ := fields
  refine ⟨⟨?_, ?_⟩, quantity, by rw [same, difference]⟩
  · rw [same, difference]
    linarith
  · rw [same, difference]
    linarith [share.2]

/-- Over a course of sales, the quantity at entry stays, and the fractions taken are what the
remaining fraction lost. -/
theorem Course.conserved {p last : Position} {sales : List Sale} (h : Course p sales last)
    (share : HasShare p) :
    last.quantity = p.quantity ∧ HasShare last ∧
      (∀ s ∈ sales, s.position.quantity = p.quantity ∧ HasShare s.position) ∧
      (sales.map fun s ↦ s.taken.value).sum = p.remaining.value - last.remaining.value := by
  induction h with
  | idle p => exact ⟨rfl, share, by simp, by simp⟩
  | sale inside opened ordered exact divided reduced more ih =>
    obtain ⟨share', quantity, remaining⟩ := afterExit?_share share divided reduced
    obtain ⟨kept, share'', each, total⟩ := ih share'
    refine ⟨kept.trans quantity, share'', ?_, ?_⟩
    · intro s mem
      obtain rfl | later := List.mem_cons.1 mem
      · exact ⟨rfl, share⟩
      · exact ⟨(each s later).1.trans quantity, (each s later).2⟩
    · rw [List.map_cons, List.sum_cons, total, remaining]
      ring

/-- The surpluses add up to what was sold less what was taken off. -/
theorem sum_surplus {sales : List Sale} {quantity : Decimal}
    (same : ∀ s ∈ sales, s.position.quantity = quantity) :
    (sales.map Sale.surplus).sum = (sales.map fun s ↦ s.quantity.value).sum -
      quantity.value * (sales.map fun s ↦ s.taken.value).sum := by
  induction sales with
  | nil => simp
  | cons s sales ih =>
    have rest := ih fun t mem ↦ same t (List.mem_cons_of_mem s mem)
    rw [List.map_cons, List.map_cons, List.map_cons, List.sum_cons, List.sum_cons, List.sum_cons,
      rest, Sale.surplus, same s List.mem_cons_self]
    ring

/-- No more than the quantity at entry was sold exactly when the surpluses stay within the share
that remains. -/
theorem Course.sold_le_iff {p last : Position} {sales : List Sale} (h : Course p sales last)
    (whole : p.remaining = Decimal.one) :
    (sales.map fun s ↦ s.quantity.value).sum ≤ p.quantity.value ↔
      (sales.map Sale.surplus).sum ≤ p.quantity.value * last.remaining.value := by
  have share : HasShare p := by
    rw [HasShare, whole, Decimal.value_one]
    norm_num
  obtain ⟨-, -, each, total⟩ := h.conserved share
  rw [sum_surplus fun s mem ↦ (each s mem).1, total, whole, Decimal.value_one]
  constructor <;> intro bound <;> linarith

/-! ## The surplus of one sale -/

/-- The share of a quantity that an exit orders, before and after it is rounded. -/
theorem exitOrder?_quantity {p : Position} {x : Exit} {order : Order.Request}
    (h : exitOrder? p x = some order) :
    ∃ product, p.exitQuantity? x.fraction = some product ∧ order.quantity = product.round 8 := by
  obtain ⟨product, multiplied, h⟩ := Option.bind_eq_some_iff.1 h
  cases h
  exact ⟨product, multiplied, rfl⟩

/-- The share that an exit orders is between zero and one. -/
theorem share_bounds {p : Position} {x : Exit} (share : HasShare p)
    (inside : IsFraction x.fraction) :
    0 ≤ min x.fraction.value p.remaining.value ∧ min x.fraction.value p.remaining.value ≤ 1 := by
  have positive := Decimal.lt_iff.1 inside.1
  rw [Decimal.value_zero] at positive
  exact ⟨le_min positive.le share.1, (min_le_right _ _).trans share.2⟩

/-- An order exceeds the share that was asked for by less than one in the eighth fraction digit. -/
theorem exitOrder?_le {p : Position} {x : Exit} {order : Order.Request} (share : HasShare p)
    (inside : IsFraction x.fraction) (nonneg : 0 ≤ p.quantity.value)
    (usual : p.quantity.value ≤ 10 ^ 18) (h : exitOrder? p x = some order) :
    order.quantity.value ≤
      p.quantity.value * min x.fraction.value p.remaining.value + 7 / 10 ^ 9 := by
  obtain ⟨product, multiplied, rounded⟩ := exitOrder?_quantity h
  obtain ⟨least, most⟩ := share_bounds share inside
  have near := Decimal.mul?_approximates multiplied
  rw [Decimal.value_min] at near
  have size : |p.quantity.value * min x.fraction.value p.remaining.value| ≤ 10 ^ 18 := by
    rw [abs_of_nonneg (mul_nonneg nonneg least)]
    exact (mul_le_of_le_one_right nonneg most).trans usual
  have close := (abs_le.1 (near.abs_sub_le size)).2
  have round := (abs_le.1 (Decimal.abs_round_sub_le product 8)).2
  rw [← rounded] at round
  calc
    order.quantity.value ≤ product.value + 1 / 2 / 10 ^ 8 := by linarith
    _ ≤ p.quantity.value * min x.fraction.value p.remaining.value + 7 / 10 ^ 9 := by linarith

/-- The fraction that a fill takes off is the share that was asked for, or the part of the quantity
at entry that was filled. -/
theorem removable_cases {p : Position} {x : Exit} {fill : Order.Confirmed} {filled : Decimal}
    (share : HasShare p) (inside : IsFraction x.fraction)
    (divided : filledFraction? p x.fraction fill = some filled) :
    (p.removable filled).value = min x.fraction.value p.remaining.value ∨
      ∃ quotient, Decimal.zero < p.quantity ∧
        Decimal.div? fill.quantity p.quantity = some quotient ∧ quotient.value ≤ 1 ∧
        quotient.value ≤ (p.removable filled).value := by
  obtain ⟨least, most⟩ := share_bounds share inside
  rw [value_removable]
  unfold filledFraction? at divided
  split at divided
  · rename_i positive
    obtain ⟨quotient, division, divided⟩ := Option.bind_eq_some_iff.1 divided
    cases divided
    rw [Decimal.value_min, min_assoc]
    obtain above | below := le_total (min x.fraction.value p.remaining.value) quotient.value
    · exact .inl (by rw [min_eq_right above, max_eq_left least])
    · refine .inr ⟨quotient, positive, division, below.trans most, ?_⟩
      rw [min_eq_left below]
      exact le_max_left _ _
  · cases divided
    exact .inl (max_eq_left least)

/-- A quantity exceeds the share of another that a quotient of at most one gives by at most one in
the eighth fraction digit. -/
theorem le_mul_div? {a b quotient : Decimal} (positive : Decimal.zero < b)
    (usual : b.value ≤ 10 ^ 18) (nonneg : 0 ≤ a.value) (small : quotient.value ≤ 1)
    (division : Decimal.div? a b = some quotient) :
    a.value ≤ b.value * quotient.value + 1 / 10 ^ 8 := by
  have positive' : 0 < b.value := by simpa using Decimal.lt_iff.1 positive
  have least := Decimal.div?_nonneg nonneg positive'.le division
  have size : |quotient.value| ≤ 1 := by rwa [abs_of_nonneg least]
  have near := Decimal.div?_approximates (size.trans (by norm_num)) division
  have close : a.value / b.value ≤ quotient.value + 1 / 10 ^ 27 := by
    linarith [(abs_le.1 (near.abs_sub_le_of_le_one size)).1]
  calc
    a.value = b.value * (a.value / b.value) := (mul_div_cancel₀ a.value positive'.ne').symm
    _ ≤ b.value * (quotient.value + 1 / 10 ^ 27) := mul_le_mul_of_nonneg_left close positive'.le
    _ = b.value * quotient.value + b.value / 10 ^ 27 := by ring
    _ ≤ b.value * quotient.value + 1 / 10 ^ 8 := by linarith

/-- One sale sells at most one in the eighth fraction digit more than it takes off. -/
theorem quantity_le_taken {p : Position} {x : Exit} {order : Order.Request}
    {fill : Order.Confirmed} {filled : Decimal} (share : HasShare p)
    (inside : IsFraction x.fraction)
    (nonneg : 0 ≤ p.quantity.value) (usual : p.quantity.value ≤ 10 ^ 18)
    (ordered : exitOrder? p x = some order) (exact : fill.quantity = order.quantity)
    (divided : filledFraction? p x.fraction fill = some filled) :
    fill.quantity.value ≤ p.quantity.value * (p.removable filled).value + 1 / 10 ^ 8 := by
  obtain asked | ⟨quotient, positive, division, small, taken⟩ :=
    removable_cases share inside divided
  · have sold := exitOrder?_le share inside nonneg usual ordered
    rw [exact, asked]
    linarith
  · obtain below | above := lt_or_ge fill.quantity.value 0
    · have off : 0 ≤ (p.removable filled).value := by
        rw [value_removable]
        exact le_max_right _ _
      linarith [mul_nonneg nonneg off]
    · calc
        fill.quantity.value ≤ p.quantity.value * quotient.value + 1 / 10 ^ 8 :=
          le_mul_div? positive usual above small division
        _ ≤ p.quantity.value * (p.removable filled).value + 1 / 10 ^ 8 := by
          gcongr

/-- Every sale of a course has a surplus of at most one in the eighth fraction digit. -/
theorem Course.surplus_le {p last : Position} {sales : List Sale} (h : Course p sales last)
    (share : HasShare p) (nonneg : 0 ≤ p.quantity.value) (usual : p.quantity.value ≤ 10 ^ 18) :
    ∀ s ∈ sales, s.surplus ≤ 1 / 10 ^ 8 := by
  induction h with
  | idle p => simp
  | @sale p after last x order fill filled rest inside opened ordered exact divided reduced more
      ih =>
    obtain ⟨share', quantity, -⟩ := afterExit?_share share divided reduced
    rw [quantity] at ih
    refine List.forall_mem_cons.2 ⟨?_, ih share' nonneg usual⟩
    rw [Sale.surplus, sub_le_iff_le_add']
    exact quantity_le_taken share inside nonneg usual ordered exact divided

end TradingDesk.Execution
