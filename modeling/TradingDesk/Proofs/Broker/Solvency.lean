import TradingDesk.Proofs.Broker.Books
import TradingDesk.Proofs.Decimal.Sums

/-!
# Solvency of the Paper Broker

With a fee and a slippage between zero and one, the cash of the paper broker is never negative, even
though amounts are rounded: a buy has to be covered, and the fee of a sale is at most what the sale
brings.  The fees paid never decrease, and no holding is zero.

An order that is not filled leaves the books as they were.  One that is filled changes no other
holding than that of its symbol, by the quantity that was ordered, and an order that only reduces a
holding keeps its average price.
-/

namespace TradingDesk.Broker.Paper

variable {s : Settings} {b b' c : State} {r : Order.Request}
  {mark slippage price notional fee change : Decimal} {side : Side} {quote : Quote}
  {held after : Holding} {answer : Except String Order.Response} {response : Order.Response}

/-! ## Amounts of a fill -/

/-- Settings with a balance that is not negative, and with a fee and a slippage between zero and
one. -/
structure Settings.IsFair (s : Settings) : Prop where
  balance : 0 ≤ s.initialBalance.value
  fee_nonneg : 0 ≤ s.fee.value
  fee_le : s.fee.value ≤ 1
  slippage_nonneg : 0 ≤ s.slippage.value
  slippage_le : s.slippage.value ≤ 1

/-- Books with a slippage between zero and one and positive prices, without debts and without
holdings of zero. -/
structure State.IsSolvent (b : State) : Prop where
  slippage_nonneg : 0 ≤ b.slippage.value
  slippage_le : b.slippage.value ≤ 1
  positive : ∀ symbol price, b.prices.find? symbol = some price → 0 < price.value
  cash : 0 ≤ b.cash.value
  fees : 0 ≤ b.feesPaid.value
  nonzero : ∀ entry ∈ b.holdings, entry.2.quantity.value ≠ 0

theorem fillPrice?_nonneg (nonneg : 0 ≤ mark.value) (least : 0 ≤ slippage.value)
    (most : slippage.value ≤ 1) (h : fillPrice? mark slippage side = some price) :
    0 ≤ price.value := by
  cases side with
  | buy =>
    obtain ⟨factor, added, product⟩ := Option.bind_eq_some_iff.1 h
    have positive : 0 ≤ Decimal.one.value + slippage.value := by
      rw [Decimal.value_one]
      linarith
    exact Decimal.mul?_nonneg nonneg (Decimal.add?_nonneg positive added) product
  | sell =>
    obtain ⟨factor, removed, product⟩ := Option.bind_eq_some_iff.1 h
    rw [← Decimal.value_one] at most
    exact Decimal.mul?_nonneg nonneg (Decimal.sub?_nonneg most removed) product

/-- The fee of a fill is not negative and at most the value of the fill. -/
theorem quote?_fee (fair : s.IsFair) (solvent : b.IsSolvent)
    (found : b.prices.find? r.symbol = some mark) (ordered : Decimal.zero < r.quantity)
    (h : quote? s b mark r = some quote) :
    0 ≤ quote.fee.value ∧ quote.fee.value ≤ quote.notional.value := by
  obtain ⟨price, filledAt, h⟩ := Option.bind_eq_some_iff.1 h
  obtain ⟨notional, multiplied, h⟩ := Option.bind_eq_some_iff.1 h
  obtain ⟨fee, taken, h⟩ := Option.bind_eq_some_iff.1 h
  cases h
  rw [Decimal.lt_iff, Decimal.value_zero] at ordered
  have priced : 0 ≤ price.value := fillPrice?_nonneg (solvent.positive r.symbol mark found).le
    solvent.slippage_nonneg solvent.slippage_le filledAt
  have worth : 0 ≤ notional.value := Decimal.mul?_nonneg priced ordered.le multiplied
  exact ⟨Decimal.mul?_nonneg worth fair.fee_nonneg taken,
    Decimal.mul?_le_left worth fair.fee_nonneg fair.fee_le taken⟩

/-- A fill that is covered leaves no debts. -/
theorem cash_nonneg {cash : Decimal} (nonneg : 0 ≤ b.cash.value) (least : fee.value ≤ notional.value)
    (changed : cashChange? notional fee side = some change)
    (covered : lacksFunds? b side change = some false)
    (added : Decimal.add? b.cash change = some cash) : 0 ≤ cash.value := by
  cases side with
  | buy =>
    rw [lacksFunds?, added, Option.map_some, Option.some_inj, decide_eq_false_iff_not,
      Decimal.not_lt, Decimal.le_iff, Decimal.value_zero] at covered
    exact covered
  | sell =>
    have gained : 0 ≤ change.value := Decimal.sub?_nonneg least changed
    exact Decimal.add?_nonneg (add_nonneg nonneg gained) added

/-! ## Holdings -/

theorem find?_refile_of_ne {symbol other : String} (away : other ≠ symbol) (b : State)
    (held : Holding) : (b.refile symbol held).find? other = b.holdings.find? other := by
  unfold State.refile
  split
  · exact Table.find?_erase_of_ne away
  · exact Table.find?_insert_of_ne away held

theorem find?_refile {symbol : String} (nonzero : ¬ held.quantity.isZero = true) (b : State) :
    (b.refile symbol held).find? symbol = some held := by
  rw [State.refile, if_neg nonzero, Table.find?_insert_self]

/-- No holding is zero after a holding is filed. -/
theorem State.IsSolvent.nonzero_refile (solvent : b.IsSolvent) (symbol : String) (held : Holding) :
    ∀ entry ∈ b.refile symbol held, entry.2.quantity.value ≠ 0 := by
  intro entry mem
  unfold State.refile at mem
  split at mem
  · exact solvent.nonzero entry (List.mem_of_mem_filter mem)
  · rename_i filed
    rcases Table.mem_of_mem_insert mem with rfl | old
    · exact mt Decimal.isZero_iff.2 filed
    · exact solvent.nonzero entry old

theorem abs_value_signedQuantity (quantity : Decimal) (side : Side) :
    |(signedQuantity quantity side).value| = |quantity.value| := by
  cases side with
  | buy => rfl
  | sell => rw [signedQuantity, Decimal.value_neg, abs_neg]

/-- Less of the other sign leaves something of a holding, at its average price. -/
theorem holdingAfter?_of_less (opposite : held.quantity.negative ≠ change.negative)
    (less : |change.value| < |held.quantity.value|)
    (h : holdingAfter? held change price = some after) :
    ¬ after.quantity.isZero = true ∧ after.averagePrice = held.averagePrice := by
  obtain ⟨total, average, added, averaged, rfl⟩ := holdingAfter?_cases h
  obtain ⟨left, sign⟩ := Decimal.add?_keeps_sign less added
  have holds : ¬ held.quantity.isZero = true := by
    rw [Decimal.isZero_iff, ← Ne, ← abs_pos]
    exact (abs_nonneg _).trans_lt less
  have turned : ¬ (held.quantity.isZero || held.quantity.negative == change.negative) = true := by
    rw [Bool.or_eq_true, beq_iff_eq]
    exact not_or.2 ⟨holds, opposite⟩
  have kept : ¬ (!total.isZero && total.negative != held.quantity.negative) = true := by
    rw [sign, bne_self_eq_false, Bool.and_false]
    exact Bool.false_ne_true
  rw [averageAfter?, if_neg turned, if_neg kept] at averaged
  exact ⟨left, (Option.some.inj averaged).symm⟩

/-- What an order that is filled changes: the holding of its symbol, by the ordered quantity if that
needs no rounding, and an order that only reduces the holding keeps its average price. -/
structure State.Fills (b b' : State) (r : Order.Request) : Prop where
  prices : b'.prices = b.prices
  slippage : b'.slippage = b.slippage
  others : ∀ other, other ≠ r.symbol → b'.holdings.find? other = b.holdings.find? other
  quantity : Decimal.AddsExactly (b.holding r.symbol).quantity
      (signedQuantity r.quantity r.side) →
    (b'.holding r.symbol).quantity.value =
      (b.holding r.symbol).quantity.value + r.side.sign * r.quantity.value
  average : ∀ held, b.holdings.find? r.symbol = some held →
    r.side.sign * held.quantity.value < 0 → r.quantity.value < |held.quantity.value| →
      ∃ left, b'.holdings.find? r.symbol = some left ∧ left.averagePrice = held.averagePrice

theorem quantity_refile {symbol : String} (filed : b'.holdings = b.refile symbol held) :
    (b'.holding symbol).quantity.value = held.quantity.value := by
  rw [State.holding, filed]
  by_cases zero : held.quantity.isZero = true
  · rw [State.refile, if_pos zero, Table.find?_erase_self, Decimal.isZero_iff.1 zero]
    exact Decimal.value_zero
  · rw [find?_refile zero]
    rfl

/-- An order of the other side has the other sign. -/
theorem negative_signedQuantity (ordered : Decimal.zero < r.quantity)
    (opposite : r.side.sign * held.quantity.value < 0) :
    held.quantity.negative ≠ (signedQuantity r.quantity r.side).negative := by
  rw [Decimal.lt_iff, Decimal.value_zero] at ordered
  have unsigned : r.quantity.negative = false :=
    Decimal.not_negative_of_nonneg ordered.le (mt Decimal.isZero_iff.1 ordered.ne')
  cases side : r.side with
  | buy =>
    rw [side, Side.sign, one_mul] at opposite
    rw [Decimal.negative_eq_decide (mt Decimal.isZero_iff.1 opposite.ne), decide_eq_true opposite,
      signedQuantity, unsigned]
    exact Bool.false_ne_true.symm
  | sell =>
    rw [side, Side.sign, neg_one_mul, neg_lt_zero] at opposite
    rw [Decimal.not_negative_of_nonneg opposite.le (mt Decimal.isZero_iff.1 opposite.ne'),
      signedQuantity, Decimal.neg, unsigned]
    exact Bool.false_ne_true

theorem settle?_fills (ordered : Decimal.zero < r.quantity)
    (h : settle? b r quote change = some (response, b')) : b.Fills b' r := by
  obtain ⟨cash, fees, held, -, -, after, -, rfl⟩ := settle?_cases h
  refine ⟨rfl, rfl, ?_, ?_, ?_⟩
  · intro other away
    exact find?_refile_of_ne away b held
  · intro exact
    obtain ⟨total, average, added, -, rfl⟩ := holdingAfter?_cases after
    refine (quantity_refile rfl).trans ?_
    rw [exact total added, value_signedQuantity]
  · intro before found opposite less
    have known : b.holding r.symbol = before := by
      rw [State.holding, found]
      rfl
    rw [known] at after
    have smaller : |(signedQuantity r.quantity r.side).value| < |before.quantity.value| := by
      rw [Decimal.lt_iff, Decimal.value_zero] at ordered
      rw [abs_value_signedQuantity, abs_of_pos ordered]
      exact less
    obtain ⟨left, same⟩ :=
      holdingAfter?_of_less (negative_signedQuantity ordered opposite) smaller after
    exact ⟨held, find?_refile left b, same⟩

/-! ## Runs -/

/-- A fill that is covered keeps the books solvent and takes back no fees. -/
theorem State.IsSolvent.settle? (solvent : b.IsSolvent) (least : 0 ≤ quote.fee.value)
    (most : quote.fee.value ≤ quote.notional.value)
    (changed : cashChange? quote.notional quote.fee r.side = some change)
    (covered : lacksFunds? b r.side change = some false)
    (h : settle? b r quote change = some (response, b')) :
    b'.IsSolvent ∧ b.feesPaid.value ≤ b'.feesPaid.value := by
  obtain ⟨cash, fees, held, addedCash, addedFees, -, -, -, rfl⟩ := settle?_eq h
  have more : b.feesPaid.value ≤ fees.value := Decimal.le_add? solvent.fees least addedFees
  refine ⟨?_, more⟩
  exact
    { slippage_nonneg := solvent.slippage_nonneg
      slippage_le := solvent.slippage_le
      positive := solvent.positive
      cash := cash_nonneg solvent.cash most changed covered addedCash
      fees := solvent.fees.trans more
      nonzero := solvent.nonzero_refile r.symbol held }

/-- A call of the paper broker. -/
inductive Call where
  | setPrice (symbol : String) (price : Decimal)
  | setSlippage (slippage : Decimal)
  | order (r : Order.Request)

/-- Whether a price that is set is positive and a slippage between zero and one. -/
def Call.IsFair : Call → Prop
  | setPrice _ price => 0 < price.value
  | setSlippage slippage => 0 ≤ slippage.value ∧ slippage.value ≤ 1
  | order _ => True

/-- The books after a call, unless an amount is out of range. -/
def State.call? (s : Settings) (b : State) : Call → Option State
  | .setPrice symbol price => some (b.setPrice symbol price)
  | .setSlippage slippage => some (b.setSlippage slippage)
  | .order r => (place? s b r).map (·.2)

/-- The books after calls one after another. -/
def State.run? (s : Settings) (b : State) (calls : List Call) : Option State :=
  calls.foldlM (State.call? s) b

theorem State.IsSolvent.place? (fair : s.IsFair) (solvent : b.IsSolvent)
    (h : place? s b r = some (answer, b')) :
    b'.IsSolvent ∧ b.feesPaid.value ≤ b'.feesPaid.value := by
  rcases place?_ends h with ⟨rfl, -⟩ |
    ⟨mark, quote, change, response, -, found, ordered, quoted, changed, covered, settled⟩
  · exact ⟨solvent, le_rfl⟩
  · obtain ⟨least, most⟩ := quote?_fee fair solvent found ordered quoted
    exact solvent.settle? least most changed covered settled

theorem State.IsSolvent.setPrice (solvent : b.IsSolvent) (symbol : String)
    (positive : 0 < price.value) : (b.setPrice symbol price).IsSolvent := by
  refine { solvent with positive := ?_ }
  intro other amount found
  change (b.prices.insert symbol price).find? other = some amount at found
  by_cases same : other = symbol
  · rw [same, Table.find?_insert_self] at found
    cases found
    exact positive
  · rw [Table.find?_insert_of_ne same] at found
    exact solvent.positive other amount found

/-- What a call keeps. -/
theorem State.IsSolvent.call? {call : Call} (fair : s.IsFair) (proper : call.IsFair)
    (solvent : b.IsSolvent) (h : b.call? s call = some c) :
    c.IsSolvent ∧ b.feesPaid.value ≤ c.feesPaid.value := by
  cases call with
  | setPrice symbol price =>
    cases h
    exact ⟨solvent.setPrice symbol proper, le_rfl⟩
  | setSlippage slippage =>
    cases h
    refine ⟨?_, le_rfl⟩
    exact { solvent with slippage_nonneg := proper.1, slippage_le := proper.2 }
  | order r =>
    obtain ⟨⟨answer, after⟩, placed, rfl⟩ := Option.map_eq_some_iff.1 h
    exact solvent.place? fair placed

/-- What calls one after another keep. -/
theorem State.IsSolvent.run? {calls : List Call} (fair : s.IsFair)
    (proper : ∀ call ∈ calls, call.IsFair) (solvent : b.IsSolvent)
    (h : b.run? s calls = some c) : c.IsSolvent ∧ b.feesPaid.value ≤ c.feesPaid.value := by
  induction calls generalizing b with
  | nil =>
    cases h
    exact ⟨solvent, le_rfl⟩
  | cons call calls ih =>
    obtain ⟨between, called, h⟩ := Option.bind_eq_some_iff.1 h
    obtain ⟨solvent', more⟩ := solvent.call? fair (proper call List.mem_cons_self) called
    obtain ⟨solvent'', more'⟩ :=
      ih (fun later mem ↦ proper later (List.mem_cons_of_mem call mem)) solvent' h
    exact ⟨solvent'', more.trans more'⟩

theorem State.isSolvent_new (fair : s.IsFair) : (State.new s).IsSolvent :=
  { slippage_nonneg := fair.slippage_nonneg
    slippage_le := fair.slippage_le
    positive := by
      intro symbol price found
      cases found
    cash := fair.balance
    fees := Decimal.value_zero.ge
    nonzero := List.forall_mem_nil _ }

/-- The paper broker stays solvent at a fee and slippages between zero and one and at positive
prices, whatever is ordered and however amounts are rounded.  The cash is not negative, the fees paid
never decrease, and no holding is zero.  An order fails or is rejected, and then nothing has changed,
or it is filled, and then it changed the holding of its symbol alone, by the ordered quantity; one
that only reduced the holding kept its average price. -/
theorem paper_broker_stays_solvent {earlier later : List Call} (fair : s.IsFair)
    (proper : ∀ call ∈ earlier ++ later, call.IsFair)
    (start : (State.new s).run? s earlier = some b) (rest : b.run? s later = some c) :
    0 ≤ b.cash.value ∧ b.feesPaid.value ≤ c.feesPaid.value ∧
      (∀ entry ∈ b.holdings, entry.2.quantity.value ≠ 0) ∧
      ∀ r answer b', place? s b r = some (answer, b') →
        (((∃ message, answer = .error message) ∨
            ∃ message, answer = .ok (Order.Response.rejection message)) ∧ b' = b) ∨
          ((∃ price, answer = .ok (filled b.serial r price)) ∧ b.Fills b' r) := by
  have early : ∀ call ∈ earlier, call.IsFair :=
    fun call mem ↦ proper call (List.mem_append_left later mem)
  have late : ∀ call ∈ later, call.IsFair :=
    fun call mem ↦ proper call (List.mem_append_right earlier mem)
  obtain ⟨solvent, -⟩ := (State.isSolvent_new fair).run? fair early start
  obtain ⟨-, fees⟩ := solvent.run? fair late rest
  refine ⟨solvent.cash, fees, solvent.nonzero, ?_⟩
  intro r answer b' placed
  rcases place?_ends placed with ⟨same, refused⟩ |
    ⟨mark, quote, change, response, rfl, -, ordered, -, -, -, settled⟩
  · exact .inl ⟨refused, same⟩
  · rw [settle?_response settled]
    exact .inr ⟨⟨quote.price, rfl⟩, settle?_fills ordered settled⟩

/-- An order for whole units of one symbol. -/
def units (side : Side) (quantity : ℕ) : Order.Request :=
  ⟨"BTC-USD", side, Decimal.const quantity 0⟩

/-- A price, a purchase of three units, and no more slippage. -/
def threeUnits : List Call :=
  [.setPrice "BTC-USD" (Decimal.const 100 0), .order (units .buy 3), .setSlippage Decimal.zero]

theorem isFair_standard : Settings.standard.IsFair := by
  have balance : Settings.standard.initialBalance.value = 10000 / 10 ^ 0 :=
    Decimal.value_const (by decide) (by decide)
  have slippage : Settings.standard.slippage.value = 5 / 10 ^ 4 :=
    Decimal.value_const (by decide) (by decide)
  have fee : Settings.standard.fee.value = 7 / 10 ^ 3 :=
    Decimal.value_const (by decide) (by decide)
  constructor <;> norm_num [balance, slippage, fee]

theorem value_units (n : ℕ) (small : n < limit96) : (Decimal.const n 0).value = n := by
  rw [Decimal.value_const small (by decide), pow_zero, div_one]

theorem isFair_threeUnits : ∀ call ∈ threeUnits ++ [.order (units .sell 1)], call.IsFair := by
  have price : 0 < (Decimal.const 100 0).value := by
    rw [value_units 100 (by decide)]
    norm_num
  have slippage : 0 ≤ Decimal.zero.value ∧ Decimal.zero.value ≤ 1 := by
    rw [Decimal.value_zero]
    norm_num
  simp only [threeUnits, List.cons_append, List.nil_append, List.forall_mem_cons]
  exact ⟨price, trivial, slippage, trivial, List.forall_mem_nil _⟩

/-- Three units are held at the price of their fill, and selling one of them is a fill, too. -/
theorem exists_threeUnits : ∃ b c answer,
    (State.new .standard).run? .standard threeUnits = some b ∧
      b.holdings.find? "BTC-USD" =
        some ⟨"BTC-USD", Decimal.const 3 0, Decimal.const 1000500 4⟩ ∧
      place? .standard b (units .sell 1) = some (.ok answer, c) ∧
      answer.status = some "filled" := by
  have bought : ((State.new .standard).run? .standard threeUnits).map (·.holdings) =
      some [("BTC-USD", ⟨"BTC-USD", Decimal.const 3 0, Decimal.const 1000500 4⟩)] := by
    decide +kernel
  have sold : (((State.new .standard).run? .standard threeUnits).bind fun b ↦
      place? .standard b (units .sell 1)).map (fun outcome ↦ match outcome.1 with
        | .ok answer => answer.status
        | .error _ => none) = some (some "filled") := by
    decide +kernel
  obtain ⟨b, start, holdings⟩ := Option.map_eq_some_iff.1 bought
  rw [start, Option.bind_some] at sold
  obtain ⟨⟨answer, c⟩, placed, status⟩ := Option.map_eq_some_iff.1 sold
  cases answer with
  | error => cases status
  | ok answer =>
    refine ⟨b, c, answer, start, ?_, placed, status⟩
    rw [holdings]
    rfl

/-- A sale of one of three units leaves two of them at their average price. -/
theorem paper_broker_stays_solvent_threeUnits : ∃ b c held left,
    (State.new .standard).run? .standard threeUnits = some b ∧
      b.run? .standard [.order (units .sell 1)] = some c ∧
      0 ≤ b.cash.value ∧ b.feesPaid.value ≤ c.feesPaid.value ∧
      b.holdings.find? "BTC-USD" = some held ∧ held.quantity.value = 3 ∧
      c.holdings.find? "BTC-USD" = some left ∧ left.quantity.value = 2 ∧
      left.averagePrice = held.averagePrice := by
  obtain ⟨b, c, answer, start, found, placed, status⟩ := exists_threeUnits
  have rest : b.run? .standard [.order (units .sell 1)] = some c := by
    change ((place? .standard b (units .sell 1)).map (·.2)).bind some = _
    rw [placed]
    rfl
  have held : (b.holding "BTC-USD").quantity = Decimal.const 3 0 := by
    rw [State.holding, found]
    rfl
  have three : (Decimal.const 3 0).value = 3 := value_units 3 (by decide)
  have one : (units .sell 1).quantity.value = 1 := by
    rw [units, value_units 1 (by decide), Nat.cast_one]
  obtain ⟨cash, fees, -, ends⟩ :=
    paper_broker_stays_solvent isFair_standard isFair_threeUnits start rest
  obtain ⟨⟨message, wrong⟩ | ⟨message, refused⟩, -⟩ | ⟨-, fills⟩ := ends _ _ _ placed
  · cases wrong
  · cases refused
    have rejected : some "rejected" = some "filled" := status
    exact absurd rejected (by decide)
  · have opposite : Side.sell.sign * (Decimal.const 3 0).value < 0 := by
      rw [three, Side.sign]
      norm_num
    have less : (units .sell 1).quantity.value < |(Decimal.const 3 0).value| := by
      rw [one, three]
      norm_num
    obtain ⟨left, kept, average⟩ := fills.average _ found opposite less
    have exact : Decimal.AddsExactly (b.holding "BTC-USD").quantity
        (signedQuantity (Decimal.const 1 0) .sell) := by
      rw [held]
      decide +kernel
    have moved := fills.quantity exact
    have left' : (c.holding (units .sell 1).symbol).quantity = left.quantity := by
      rw [State.holding, kept]
      rfl
    have two : left.quantity.value = 2 := by
      rw [← left', moved, one]
      change (b.holding "BTC-USD").quantity.value + Side.sell.sign * 1 = 2
      rw [held, three, Side.sign]
      norm_num
    exact ⟨b, c, _, left, start, rest, cash, fees, found, three, kept, two, average⟩

end TradingDesk.Broker.Paper
