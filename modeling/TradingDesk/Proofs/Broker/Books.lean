import TradingDesk.Proofs.Broker.Fills
import TradingDesk.Proofs.Decimal.Exact
import TradingDesk.Proofs.Table
import TradingDesk.Proofs.Text.Blank

/-!
# The Books of the Paper Broker

An order that the paper broker fills without rounding moves money in one way only: the value of the
fill goes from the cash into the holding or back, and the fee goes from the cash to the fees paid.
Whatever the symbols are worth, the holdings are worth as much more as the quantity that was bought.
An order that is refused, or that finds no price, leaves the books as they are, and so does every
order that is not confirmed.

The worth of the holdings at arbitrary prices says at once what each symbol is held at and what all
of them come to.
-/

namespace TradingDesk

theorem Identifier.isEmpty_trim_text (serial : Nat) :
    (Text.trim (Identifier.text serial)).isEmpty = false := by
  have first : "00000000-0000-4000-8000-".toList = '0' :: "0000000-0000-4000-8000-".toList := by
    decide
  have chars : (Identifier.text serial).toList =
      '0' :: ("0000000-0000-4000-8000-".toList ++ (Identifier.hex 12 serial).toList) := by
    unfold Identifier.text
    rewrite [String.toList_append, first]
    exact List.cons_append
  rw [Bool.eq_false_iff, Ne, Text.isEmpty_trim_iff]
  intro blank
  have zero : '0' ∈ (Identifier.text serial).toList := by
    rw [chars]
    exact List.mem_cons_self
  exact absurd (blank '0' zero) (by decide)

namespace Broker.Paper

variable {s : Settings} {b b' : State} {r : Order.Request} {response : Order.Response}
  {mark slippage price notional fee change : Decimal} {side : Side}

/-! ## Exact fills -/

/-- Whether the price of a fill needs no rounding. -/
def PricesExactly (mark slippage : Decimal) : Side → Prop
  | .buy => Decimal.AddsExactly Decimal.one slippage ∧
      ∀ factor ∈ Decimal.add? Decimal.one slippage, Decimal.MultipliesExactly mark factor
  | .sell => Decimal.SubtractsExactly Decimal.one slippage ∧
      ∀ factor ∈ Decimal.sub? Decimal.one slippage, Decimal.MultipliesExactly mark factor

/-- Whether a change of the cash needs no rounding. -/
def ChangesExactly (notional fee : Decimal) : Side → Prop
  | .buy => Decimal.AddsExactly notional fee
  | .sell => Decimal.SubtractsExactly notional fee

/-- Whether the amounts that an order leads to need no rounding: the price and the value of the
fill, the change of the cash and the cash, and, if the cash covers the order, the fees paid and the
holding. -/
def FillsExactly (s : Settings) (b : State) (r : Order.Request) : Prop :=
  ∀ mark ∈ b.prices.find? r.symbol, ∀ quote ∈ quote? s b mark r,
    ∀ change ∈ cashChange? quote.notional quote.fee r.side,
      PricesExactly mark b.slippage r.side ∧ Decimal.MultipliesExactly quote.price r.quantity ∧
        ChangesExactly quote.notional quote.fee r.side ∧ Decimal.AddsExactly b.cash change ∧
        (lacksFunds? b r.side change = some false → Decimal.AddsExactly b.feesPaid quote.fee ∧
          Decimal.AddsExactly (b.holding r.symbol).quantity (signedQuantity r.quantity r.side))

instance (mark slippage : Decimal) : (side : Side) → Decidable (PricesExactly mark slippage side)
  | .buy => inferInstanceAs (Decidable (_ ∧ _))
  | .sell => inferInstanceAs (Decidable (_ ∧ _))

instance (notional fee : Decimal) : (side : Side) → Decidable (ChangesExactly notional fee side)
  | .buy => inferInstanceAs (Decidable (Decimal.AddsExactly notional fee))
  | .sell => inferInstanceAs (Decidable (Decimal.SubtractsExactly notional fee))

instance (s : Settings) (b : State) (r : Order.Request) : Decidable (FillsExactly s b r) :=
  inferInstanceAs (Decidable (∀ mark ∈ b.prices.find? r.symbol, _))

theorem value_fillPrice? (exact : PricesExactly mark slippage side)
    (h : fillPrice? mark slippage side = some price) :
    price.value = mark.value * (1 + side.sign * slippage.value) := by
  cases side with
  | buy =>
    obtain ⟨factor, added, product⟩ := Option.bind_eq_some_iff.1 h
    rw [exact.2 factor added price product, exact.1 factor added, Decimal.value_one, Side.sign,
      one_mul]
  | sell =>
    obtain ⟨factor, removed, product⟩ := Option.bind_eq_some_iff.1 h
    rw [exact.2 factor removed price product, exact.1 factor removed, Decimal.value_one, Side.sign,
      neg_one_mul, ← sub_eq_add_neg]

theorem value_cashChange? (exact : ChangesExactly notional fee side)
    (h : cashChange? notional fee side = some change) :
    change.value = -(side.sign * notional.value) - fee.value := by
  cases side with
  | buy =>
    obtain ⟨cost, added, rfl⟩ := Option.map_eq_some_iff.1 h
    rw [Decimal.value_neg, exact cost added, Side.sign]
    ring
  | sell =>
    rw [exact change h, Side.sign]
    ring

theorem value_signedQuantity (quantity : Decimal) (side : Side) :
    (signedQuantity quantity side).value = side.sign * quantity.value := by
  cases side with
  | buy => exact (one_mul _).symm
  | sell => rw [signedQuantity, Decimal.value_neg, Side.sign, neg_one_mul]

/-! ## Sound books -/

/-- The worth of the holdings at the prices that a function gives. -/
def State.worth (b : State) (m : String → ℚ) : ℚ :=
  b.holdings.total fun symbol held ↦ held.quantity.value * m symbol

/-- The last price of a symbol. -/
def State.lastPrice (b : State) (symbol : String) : ℚ :=
  (b.prices.find? symbol).elim 0 Decimal.value

/-- Books with a fixed slippage and positive prices, whose holdings are listed once under their
symbols and have a price. -/
structure State.IsSound (s : Settings) (b : State) : Prop where
  slippage : b.slippage = s.slippage
  positive : ∀ symbol price, b.prices.find? symbol = some price → 0 < price.value
  distinct : b.holdings.names.Nodup
  listed : ∀ entry ∈ b.holdings,
    entry.2.symbol = entry.1 ∧ (b.prices.find? entry.1).isSome = true

theorem State.isSound_new (s : Settings) : (State.new s).IsSound s := by
  refine ⟨rfl, ?_, List.nodup_nil, ?_⟩
  · intro symbol price found
    cases found
  · intro entry mem
    cases mem

theorem State.IsSound.setPrice (sound : b.IsSound s) (symbol : String)
    (positive : 0 < price.value) : (b.setPrice symbol price).IsSound s := by
  have found (other : String) : (b.prices.insert symbol price).find? other =
      if other = symbol then some price else b.prices.find? other := by
    split
    · rename_i same
      rw [same, Table.find?_insert_self]
    · rename_i away
      exact Table.find?_insert_of_ne away price
  refine ⟨sound.slippage, ?_, sound.distinct, ?_⟩
  · intro other amount h
    change (b.prices.insert symbol price).find? other = some amount at h
    rw [found] at h
    split at h
    · cases h
      exact positive
    · exact sound.positive other amount h
  · intro entry mem
    refine ⟨(sound.listed entry mem).1, ?_⟩
    change ((b.prices.insert symbol price).find? entry.1).isSome = true
    rw [found]
    split
    · rfl
    · exact (sound.listed entry mem).2

theorem State.IsSound.symbol_holding (sound : b.IsSound s) (symbol : String) :
    (b.holding symbol).symbol = symbol := by
  unfold State.holding
  cases found : b.holdings.find? symbol with
  | none => rfl
  | some held => exact (sound.listed _ (Table.mem_of_find? found)).1

/-- What a fill of an order does to the books. -/
structure Booked (b b' : State) (r : Order.Request) (price : Decimal) : Prop where
  funds : b'.cash.value + b'.feesPaid.value =
    b.cash.value + b.feesPaid.value - r.side.sign * (r.quantity.value * price.value)
  worth : ∀ m, b'.worth m = b.worth m + r.side.sign * r.quantity.value * m r.symbol
  prices : b'.prices = b.prices

theorem worth_part (b : State) (m : String → ℚ) (symbol : String) :
    b.holdings.part (fun symbol held ↦ held.quantity.value * m symbol) symbol =
      (b.holding symbol).quantity.value * m symbol := by
  unfold Table.part State.holding
  cases b.holdings.find? symbol with
  | none =>
    change (0 : ℚ) = Decimal.zero.value * m symbol
    rw [Decimal.value_zero, zero_mul]
  | some held => rfl

/-! ## Settling a fill -/

/-- The holdings with a new one of a symbol, which is dropped when it is zero. -/
def State.refile (b : State) (symbol : String) (held : Holding) : Table Holding :=
  if held.quantity.isZero then b.holdings.erase symbol else b.holdings.insert symbol held

theorem State.IsSound.total_refile (sound : b.IsSound s) (symbol : String) (held : Holding)
    (m : String → ℚ) :
    (b.refile symbol held).total (fun symbol held ↦ held.quantity.value * m symbol) =
      b.worth m + (held.quantity.value - (b.holding symbol).quantity.value) * m symbol := by
  unfold State.refile State.worth
  split
  · rename_i empty
    rw [Table.total_erase _ sound.distinct, worth_part, Decimal.isZero_iff.1 empty]
    ring
  · rw [Table.total_insert, worth_part]
    ring

theorem State.IsSound.nodup_refile (sound : b.IsSound s) (symbol : String) (held : Holding) :
    (b.refile symbol held).names.Nodup := by
  unfold State.refile
  split
  · exact Table.nodup_erase sound.distinct
  · exact Table.nodup_insert sound.distinct

theorem State.IsSound.listed_refile {symbol : String} {held : Holding} (sound : b.IsSound s)
    (same : held.symbol = symbol) (priced : (b.prices.find? symbol).isSome = true) :
    ∀ entry ∈ b.refile symbol held,
      entry.2.symbol = entry.1 ∧ (b.prices.find? entry.1).isSome = true := by
  intro entry mem
  unfold State.refile at mem
  split at mem
  · exact sound.listed entry (List.mem_of_mem_filter mem)
  · rcases Table.mem_of_mem_insert mem with rfl | old
    · exact ⟨same, priced⟩
    · exact sound.listed entry old

theorem holdingAfter?_cases {held after : Holding}
    (h : holdingAfter? held change price = some after) :
    ∃ total average, Decimal.add? held.quantity change = some total ∧
      averageAfter? held change total price = some average ∧
      after = { held with quantity := total, averagePrice := average } := by
  obtain ⟨total, added, h⟩ := Option.bind_eq_some_iff.1 h
  obtain ⟨average, averaged, h⟩ := Option.bind_eq_some_iff.1 h
  cases h
  exact ⟨total, average, added, averaged, rfl⟩

/-- Settling a fill changes the cash, the fees paid, the holding and the serial number. -/
theorem settle?_cases {quote : Quote} (h : settle? b r quote change = some (response, b')) :
    ∃ cash fees held, Decimal.add? b.cash change = some cash ∧
      Decimal.add? b.feesPaid quote.fee = some fees ∧
      holdingAfter? (b.holding r.symbol) (signedQuantity r.quantity r.side) quote.price =
        some held ∧
      response = filled b.serial r quote.price ∧
      b' = { b with
        cash := cash
        feesPaid := fees
        holdings := b.refile r.symbol held
        serial := b.serial + 1 } := by
  obtain ⟨cash, addedCash, h⟩ := Option.bind_eq_some_iff.1 h
  obtain ⟨fees, addedFees, h⟩ := Option.bind_eq_some_iff.1 h
  obtain ⟨held, after, h⟩ := Option.bind_eq_some_iff.1 h
  cases h
  exact ⟨cash, fees, held, addedCash, addedFees, after, rfl, rfl⟩

/-- The holding that a fill leaves is of the same symbol and has the quantity added. -/
theorem settle?_eq {quote : Quote} (h : settle? b r quote change = some (response, b')) :
    ∃ cash fees held, Decimal.add? b.cash change = some cash ∧
      Decimal.add? b.feesPaid quote.fee = some fees ∧
      Decimal.add? (b.holding r.symbol).quantity (signedQuantity r.quantity r.side) =
        some held.quantity ∧
      held.symbol = (b.holding r.symbol).symbol ∧ response = filled b.serial r quote.price ∧
      b' = { b with
        cash := cash
        feesPaid := fees
        holdings := b.refile r.symbol held
        serial := b.serial + 1 } := by
  obtain ⟨cash, fees, held, addedCash, addedFees, after, answered, moved⟩ := settle?_cases h
  obtain ⟨total, average, addedHolding, -, rfl⟩ := holdingAfter?_cases after
  exact ⟨cash, fees, ⟨_, total, average⟩, addedCash, addedFees, addedHolding, rfl, answered, moved⟩

/-- What settling a fill does to the books. -/
theorem settle?_booked {quote : Quote} (sound : b.IsSound s)
    (h : settle? b r quote change = some (response, b'))
    (priced : (b.prices.find? r.symbol).isSome = true)
    (money : change.value =
      -(r.side.sign * (r.quantity.value * quote.price.value)) - quote.fee.value)
    (cashed : Decimal.AddsExactly b.cash change)
    (charged : Decimal.AddsExactly b.feesPaid quote.fee)
    (moved : Decimal.AddsExactly (b.holding r.symbol).quantity
      (signedQuantity r.quantity r.side)) :
    response = filled b.serial r quote.price ∧ Booked b b' r quote.price ∧ b'.IsSound s := by
  obtain ⟨cash, fees, held, addedCash, addedFees, addedHolding, symbol, answered, rfl⟩ :=
    settle?_eq h
  have quantity := moved held.quantity addedHolding
  rw [value_signedQuantity] at quantity
  refine ⟨answered, ⟨?_, ?_, rfl⟩, ?_⟩
  · change cash.value + fees.value = _
    rw [cashed cash addedCash, charged fees addedFees, money]
    ring
  · intro m
    change (b.refile r.symbol held).total _ = _
    rw [sound.total_refile, quantity]
    ring
  · exact ⟨sound.slippage, sound.positive, sound.nodup_refile r.symbol held,
      sound.listed_refile (symbol.trans (sound.symbol_holding r.symbol)) priced⟩

/-! ## Orders -/

/-- A fill is confirmed as it is. -/
theorem confirm?_filled {serial : Nat} (ordered : Decimal.zero < r.quantity)
    (positive : Decimal.zero < price) :
    ∃ reference, Order.confirm? (filled serial r price) r.symbol r.quantity =
      some (.ok ⟨reference, "filled", price, r.quantity⟩) := by
  have reference : (filled serial r price).reference? =
      some (Text.trim (Identifier.text serial)) := by
    change List.find? _ [Text.trim (Identifier.text serial)] = _
    rw [List.find?_cons_of_pos]
    rw [Identifier.isEmpty_trim_text]
    rfl
  have status : (filled serial r price).normalizedStatus? = some "filled" := by rfl
  have sound : (filled serial r price).errorMessage? = none := rfl
  have symbol : (filled serial r price).symbol = some r.symbol := rfl
  have named : Order.identify (filled serial r price) r.symbol =
      .ok (Text.trim (Identifier.text serial), "filled") := by
    unfold Order.identify
    simp [reference, status, sound, symbol, Order.failedStatuses, Order.acceptedStatuses]
    rfl
  have priced : Order.fillPrice? (filled serial r price) = some (.ok price) := by
    change (if Decimal.zero < price then some (Except.ok price) else _) = _
    rw [if_pos positive]
  have quantity : Order.fillQuantity? (filled serial r price) r.quantity = some r.quantity := by
    have kept : (some r.quantity).filter Decimal.isPositive = some r.quantity := by
      simp [Option.filter, Decimal.isPositive, ordered]
    have volume : (filled serial r price).filledVolume = some r.quantity := rfl
    rw [Order.fillQuantity?, volume, kept]
  refine ⟨Text.trim (Identifier.text serial), ?_⟩
  unfold Order.confirm?
  rw [named, priced, quantity]
  rfl

/-- A fill has a positive price. -/
theorem State.IsSound.value_fillPrice?_pos (sound : b.IsSound s) (least : 0 ≤ s.slippage.value)
    (most : s.slippage.value < 1) (found : b.prices.find? r.symbol = some mark)
    (exact : PricesExactly mark b.slippage side)
    (h : fillPrice? mark b.slippage side = some price) : 0 < price.value := by
  rw [value_fillPrice? exact h, sound.slippage]
  apply mul_pos (sound.positive r.symbol mark found)
  cases side with
  | buy =>
    change 0 < 1 + 1 * s.slippage.value
    linarith
  | sell =>
    change 0 < 1 + -1 * s.slippage.value
    linarith

/-- The ways in which an order that is filled exactly ends: it changes nothing and is not confirmed,
or it is booked. -/
inductive Placed (s : Settings) (b : State) (r : Order.Request) :
    Except String Order.Response → State → Prop
  | refused {answer : Except String Order.Response}
      (unnamed : ∀ response, answer = .ok response → response.reference? = none) :
      Placed s b r answer b
  | filled {price : Decimal} {b' : State} (ordered : Decimal.zero < r.quantity)
      (positive : Decimal.zero < price) (booked : Booked b b' r price) (sound : b'.IsSound s) :
      Placed s b r (.ok (filled b.serial r price)) b'

theorem place?_placed {answer : Except String Order.Response} (least : 0 ≤ s.slippage.value)
    (most : s.slippage.value < 1) (sound : b.IsSound s) (exact : FillsExactly s b r)
    (h : place? s b r = some (answer, b')) : Placed s b r answer b' := by
  rcases place?_eq h with ⟨rfl, unnamed⟩ |
    ⟨mark, quote, change, response, rfl, found, ordered, quoted, changed, covered, settled⟩
  · exact .refused unnamed
  · obtain ⟨priced, valued, moved, cashed, booked⟩ := exact mark found quote quoted change changed
    obtain ⟨charged, held⟩ := booked covered
    obtain ⟨price, filledAt, quoted⟩ := Option.bind_eq_some_iff.1 quoted
    obtain ⟨notional, multiplied, quoted⟩ := Option.bind_eq_some_iff.1 quoted
    obtain ⟨fee, -, quoted⟩ := Option.bind_eq_some_iff.1 quoted
    cases quoted
    have money : change.value =
        -(r.side.sign * (r.quantity.value * price.value)) - fee.value := by
      rw [value_cashChange? moved changed, valued notional multiplied, mul_comm price.value]
    have positive : Decimal.zero < price := by
      rw [Decimal.lt_iff, Decimal.value_zero]
      exact sound.value_fillPrice?_pos least most found priced filledAt
    have known : (b.prices.find? r.symbol).isSome = true := by
      rw [found]
      rfl
    obtain ⟨same, moves, sound'⟩ := settle?_booked sound settled known money cashed charged held
    rw [same]
    exact .filled ordered positive moves sound'

/-- The ways in which an order ends at a broker whose fills have a positive price and a property:
it changes nothing and is not confirmed, or it is filled. -/
inductive Answered (b : State) (r : Order.Request) (Q : Decimal → State → Prop) :
    Except String Order.Response → State → Prop
  | refused {answer : Except String Order.Response}
      (unnamed : ∀ response, answer = .ok response → response.reference? = none) :
      Answered b r Q answer b
  | filled {price : Decimal} {b' : State} (ordered : Decimal.zero < r.quantity)
      (positive : Decimal.zero < price) (effect : Q price b') :
      Answered b r Q (.ok (filled b.serial r price)) b'

theorem place?_answered {answer : Except String Order.Response} (least : 0 ≤ s.slippage.value)
    (most : s.slippage.value < 1) (sound : b.IsSound s) (exact : FillsExactly s b r)
    (h : place? s b r = some (answer, b')) :
    Answered b r (fun price b' ↦ Booked b b' r price ∧ b'.IsSound s) answer b' := by
  cases place?_placed least most sound exact h with
  | refused unnamed => exact .refused unnamed
  | filled ordered positive booked sound => exact .filled ordered positive ⟨booked, sound⟩

/-! ## Holdings and equity -/

/-- What a symbol is held at is the worth of the holdings when it alone is worth something. -/
theorem State.IsSound.worth_indicator (sound : b.IsSound s) (symbol : String) :
    b.worth (fun other ↦ if other = symbol then 1 else 0) =
      (b.holding symbol).quantity.value := by
  unfold State.worth
  rw [Table.total_eq_part sound.distinct, worth_part, if_pos rfl, mul_one]
  intro entry mem away
  dsimp only
  rw [if_neg away, mul_zero]

/-- Whether the equity needs no rounding: the value of each holding, their sum, and the cash added
to it. -/
def State.MarksExactly (b : State) : Prop :=
  (∀ entry ∈ b.holdings, Decimal.MultipliesExactly entry.2.quantity
      ((b.prices.find? entry.2.symbol).getD entry.2.averagePrice)) ∧
    ∀ values ∈ b.holdings.mapM (fun entry ↦ b.value? entry.2),
      Decimal.SumsExactly Decimal.zero values ∧
        ∀ marked ∈ Decimal.sum? values, Decimal.AddsExactly b.cash marked

instance (b : State) : Decidable b.MarksExactly :=
  inferInstanceAs (Decidable (_ ∧ _))

theorem State.IsSound.sum_values (sound : b.IsSound s) {t : Table Holding}
    {values : List Decimal} (held : ∀ entry ∈ t, entry ∈ b.holdings)
    (exact : ∀ entry ∈ t, Decimal.MultipliesExactly entry.2.quantity
      ((b.prices.find? entry.2.symbol).getD entry.2.averagePrice))
    (h : t.mapM (fun entry ↦ b.value? entry.2) = some values) :
    (values.map Decimal.value).sum =
      t.total fun symbol held ↦ held.quantity.value * b.lastPrice symbol := by
  induction t generalizing values with
  | nil =>
    cases h
    rfl
  | cons entry t ih =>
    rw [List.mapM_cons] at h
    obtain ⟨first, multiplied, h⟩ := Option.bind_eq_some_iff.1 h
    obtain ⟨rest, later, h⟩ := Option.bind_eq_some_iff.1 h
    cases h
    obtain ⟨symbol, priced⟩ := sound.listed entry (held entry List.mem_cons_self)
    obtain ⟨price, found⟩ := Option.isSome_iff_exists.1 priced
    have here := exact entry List.mem_cons_self first multiplied
    have last : b.lastPrice entry.1 = price.value := by
      rw [State.lastPrice, found]
      rfl
    rw [symbol, found] at here
    rw [List.map_cons, List.sum_cons, Table.total_cons, last,
      ih (fun other mem ↦ held other (List.mem_cons_of_mem entry mem))
        (fun other mem ↦ exact other (List.mem_cons_of_mem entry mem)) later]
    exact congrArg (· + _) here

/-- The equity is the cash and the worth of the holdings at the last prices. -/
theorem State.IsSound.value_equity? {equity : Decimal} (sound : b.IsSound s)
    (exact : b.MarksExactly) (h : b.equity? = some equity) :
    equity.value = b.cash.value + b.worth b.lastPrice := by
  obtain ⟨values, valued, h⟩ := Option.bind_eq_some_iff.1 h
  obtain ⟨marked, summed, added⟩ := Option.bind_eq_some_iff.1 h
  obtain ⟨sums, adds⟩ := exact.2 values valued
  rw [adds marked summed equity added, Decimal.value_foldlM_add? sums summed, Decimal.value_zero,
    zero_add, sound.sum_values (fun _ mem ↦ mem) exact.1 valued]
  rfl

end Broker.Paper

end TradingDesk
