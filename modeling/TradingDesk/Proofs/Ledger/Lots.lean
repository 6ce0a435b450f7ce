import Mathlib.Algebra.BigOperators.Group.List.Basic
import TradingDesk.Ledger.Statistics
import TradingDesk.Position
import TradingDesk.Proofs.Decimal.Exact

/-!
# Lots

A lot is an entry together with the exits that were booked for it.  The lots of a list of trades
follow from the trades alone: every entry begins a lot, and an exit belongs to the lot of the latest
entry of its user into its symbol.

Where every exit finds such an entry and carries the result that its prices give, the trades account
for all of the money.  What the trades paid and received, together with the worth of the quantities
that they moved, is what the exits realized and what the lots would still bring.
-/

namespace TradingDesk

namespace Trade

/-- What a trade adds to the cash before fees. -/
def cashFlow (t : Trade) : ℚ :=
  -(t.side.sign * (t.quantity.value * t.price.value))

/-- What a trade adds to the holding of its symbol. -/
def signedQuantity (t : Trade) : ℚ :=
  t.side.sign * t.quantity.value

end Trade

/-! ## Results -/

/-- The prices whose difference is the gain of a side, the one that counts for it first. -/
def Side.gainPrices (side : Side) (entryPrice price : Decimal) : Decimal × Decimal :=
  match side with
  | .buy => (price, entryPrice)
  | .sell => (entryPrice, price)

/-- The result of a quantity that a side entered at one price and leaves at another. -/
def Side.profit? (side : Side) (entryPrice quantity price : Decimal) : Option Decimal := do
  let gain ← Decimal.sub? (side.gainPrices entryPrice price).1 (side.gainPrices entryPrice price).2
  Decimal.mul? gain quantity

/-- Whether the result of a quantity needs no rounding. -/
def Side.ProfitsExactly (side : Side) (entryPrice quantity price : Decimal) : Prop :=
  Decimal.SubtractsExactly (side.gainPrices entryPrice price).1
      (side.gainPrices entryPrice price).2 ∧
    ∀ gain ∈ Decimal.sub? (side.gainPrices entryPrice price).1
      (side.gainPrices entryPrice price).2, Decimal.MultipliesExactly gain quantity

instance (side : Side) (entryPrice quantity price : Decimal) :
    Decidable (side.ProfitsExactly entryPrice quantity price) :=
  inferInstanceAs (Decidable (Decimal.SubtractsExactly _ _ ∧ ∀ gain ∈ Decimal.sub? _ _, _))

/-- A position computes the result of an exit from its side and its price at entry. -/
theorem Position.profit?_eq (p : Position) (quantity price : Decimal) :
    p.profit? quantity price = p.side.profit? p.entryPrice quantity price := by
  unfold Position.profit? Position.gain? Side.profit?
  cases p.side with
  | buy => rfl
  | sell => rfl

theorem Side.value_profit? {side : Side} {entryPrice quantity price profit : Decimal}
    (exact : side.ProfitsExactly entryPrice quantity price)
    (h : side.profit? entryPrice quantity price = some profit) :
    profit.value = side.sign * (price.value - entryPrice.value) * quantity.value := by
  obtain ⟨gain, subtracted, multiplied⟩ := Option.bind_eq_some_iff.1 h
  rw [exact.2 gain subtracted profit multiplied, exact.1 gain subtracted]
  cases side with
  | buy =>
    change (price.value - entryPrice.value) * quantity.value = _
    rw [Side.sign, one_mul]
  | sell =>
    change (entryPrice.value - price.value) * quantity.value = _
    rw [Side.sign, neg_one_mul, neg_sub]

/-- Leaving out what adds nothing keeps a sum. -/
theorem sum_map_filter {trades : List Trade} {p : Trade → Bool} {f : Trade → ℚ}
    (vanishes : ∀ t ∈ trades, p t = false → f t = 0) :
    ((trades.filter p).map f).sum = (trades.map f).sum := by
  have split : trades.map f = trades.map fun t ↦ if p t then f t else 0 := by
    apply List.map_congr_left
    intro t mem
    cases kept : p t with
    | true => rfl
    | false => exact vanishes t mem kept
  rw [split, List.sum_map_ite]
  simp

namespace Ledger

/-! ## Filing trades -/

/-- An entry and the exits that were booked for it, newest first. -/
structure Lot where
  entry : Trade
  exits : List Trade

namespace Lot

/-- Whether a lot is one of a user in a symbol. -/
def isAt (user symbol : String) (lot : Lot) : Bool :=
  lot.entry.user == user && lot.entry.symbol == symbol

/-- The trades of a lot. -/
def trades (lot : Lot) : List Trade :=
  lot.entry :: lot.exits

/-- The lot with one more exit. -/
def add (lot : Lot) (t : Trade) : Lot :=
  { lot with exits := t :: lot.exits }

/-- The quantity of the entry that no exit took. -/
def leftover (lot : Lot) : ℚ :=
  lot.entry.quantity.value - (lot.exits.map (·.quantity.value)).sum

/-- What the leftover of a lot would bring at a price. -/
def unrealized (lot : Lot) (price : ℚ) : ℚ :=
  lot.entry.side.sign * lot.leftover * (price - lot.entry.price.value)

/-- Whether a trade closes a part of an entry, with the result that its price gives. -/
structure Closes (entry t : Trade) : Prop where
  kind : t.kind = .exit
  symbol : t.symbol = entry.symbol
  side : t.side = entry.side.opposite
  profit : entry.side.profit? entry.price t.quantity t.price = some t.profit

/-- Whether a lot is an entry without a result and exits that close parts of it. -/
structure IsMatched (lot : Lot) : Prop where
  entry : lot.entry.profit = Decimal.zero
  exits : ∀ t ∈ lot.exits, Closes lot.entry t

/-- Whether the results of the exits of a lot need no rounding. -/
def IsExact (lot : Lot) : Prop :=
  ∀ t ∈ lot.exits, lot.entry.side.ProfitsExactly lot.entry.price t.quantity t.price

instance (lot : Lot) : Decidable lot.IsExact :=
  inferInstanceAs (Decidable (∀ t ∈ lot.exits, _))

end Lot

variable {ls : List Lot} {lot : Lot} {t : Trade} {user symbol : String} {trades : List Trade}

/-- Files an exit with the first lot of its user in its symbol. -/
def file (t : Trade) : List Lot → List Lot
  | [] => []
  | lot :: rest => if lot.isAt t.user t.symbol then lot.add t :: rest else lot :: file t rest

/-- The lots of trades that are newest first. -/
def lots : List Trade → List Lot
  | [] => []
  | t :: older =>
    match t.kind with
    | .entry => ⟨t, []⟩ :: lots older
    | .exit => file t (lots older)

/-- The latest lot of a user in a symbol. -/
def latestLot? (user symbol : String) (trades : List Trade) : Option Lot :=
  (lots trades).find? (Lot.isAt user symbol)

theorem Lot.isAt_iff : lot.isAt user symbol = true ↔
    lot.entry.user = user ∧ lot.entry.symbol = symbol := by
  simp [Lot.isAt]

theorem lots_entry (kind : t.kind = .entry) (trades : List Trade) :
    lots (t :: trades) = ⟨t, []⟩ :: lots trades := by
  rw [lots, kind]

theorem lots_exit (kind : t.kind = .exit) (trades : List Trade) :
    lots (t :: trades) = file t (lots trades) := by
  rw [lots, kind]

theorem find?_file (t : Trade) (user symbol : String) (ls : List Lot) :
    (file t ls).find? (Lot.isAt user symbol) =
      if t.user = user ∧ t.symbol = symbol then
        (ls.find? (Lot.isAt user symbol)).map (·.add t)
      else ls.find? (Lot.isAt user symbol) := by
  induction ls with
  | nil => simp [file]
  | cons lot ls ih =>
    have kept : (lot.add t).isAt user symbol = lot.isAt user symbol := rfl
    unfold file
    split
    · rename_i here
      rw [List.find?_cons, List.find?_cons, kept]
      obtain ⟨ofUser, inSymbol⟩ := Lot.isAt_iff.1 here
      rw [← ofUser, ← inSymbol]
      by_cases same : lot.entry.user = user ∧ lot.entry.symbol = symbol
      · rw [if_pos same, Lot.isAt_iff.2 same]
        rfl
      · rw [if_neg same, Bool.eq_false_iff.2 (mt Lot.isAt_iff.1 same)]
    · rename_i away
      rw [List.find?_cons, List.find?_cons, ih]
      by_cases same : t.user = user ∧ t.symbol = symbol
      · have other : lot.isAt user symbol = false := by
          rw [← same.1, ← same.2]
          exact Bool.eq_false_iff.2 away
        rw [other]
      · rw [if_neg same, if_neg same]

theorem latestLot?_entry_self (kind : t.kind = .entry) (trades : List Trade) :
    latestLot? t.user t.symbol (t :: trades) = some ⟨t, []⟩ := by
  have here : Lot.isAt t.user t.symbol ⟨t, []⟩ = true := Lot.isAt_iff.2 ⟨rfl, rfl⟩
  rw [latestLot?, lots_entry kind, List.find?_cons_of_pos here]

theorem latestLot?_entry_of_ne (kind : t.kind = .entry)
    (other : ¬(t.user = user ∧ t.symbol = symbol)) (trades : List Trade) :
    latestLot? user symbol (t :: trades) = latestLot? user symbol trades := by
  rw [latestLot?, lots_entry kind, List.find?_cons_of_neg (mt Lot.isAt_iff.1 other), latestLot?]

theorem latestLot?_exit_self (kind : t.kind = .exit) (trades : List Trade) :
    latestLot? t.user t.symbol (t :: trades) =
      (latestLot? t.user t.symbol trades).map (·.add t) := by
  rw [latestLot?, lots_exit kind, find?_file, if_pos ⟨rfl, rfl⟩, latestLot?]

theorem latestLot?_exit_of_ne (kind : t.kind = .exit)
    (other : ¬(t.user = user ∧ t.symbol = symbol)) (trades : List Trade) :
    latestLot? user symbol (t :: trades) = latestLot? user symbol trades := by
  rw [latestLot?, lots_exit kind, find?_file, if_neg other, latestLot?]

/-- An exit that finds a lot adds itself to the trades of the lots. -/
theorem trades_file (found : ls.find? (Lot.isAt t.user t.symbol) = some lot) :
    ((file t ls).flatMap Lot.trades).Perm (t :: ls.flatMap Lot.trades) := by
  induction ls with
  | nil => cases found
  | cons first ls ih =>
    unfold file
    split
    · rw [List.flatMap_cons, List.flatMap_cons]
      exact (List.Perm.swap t first.entry first.exits).append_right (ls.flatMap Lot.trades)
    · rename_i away
      rw [List.find?_cons_of_neg away] at found
      rw [List.flatMap_cons, List.flatMap_cons]
      exact ((ih found).append_left first.trades).trans List.perm_middle

theorem mem_file {old : Lot} (found : ls.find? (Lot.isAt t.user t.symbol) = some old)
    (mem : lot ∈ file t ls) : lot = old.add t ∨ lot ∈ ls := by
  induction ls with
  | nil => cases mem
  | cons first ls ih =>
    unfold file at mem
    split at mem
    · rename_i here
      rw [List.find?_cons_of_pos here] at found
      cases found
      exact (List.mem_cons.1 mem).imp_right (List.mem_cons_of_mem _)
    · rename_i away
      rw [List.find?_cons_of_neg away] at found
      rcases List.mem_cons.1 mem with rfl | later
      · exact Or.inr List.mem_cons_self
      · exact (ih found later).imp_right (List.mem_cons_of_mem _)

theorem file_of_not_found (missing : ls.find? (Lot.isAt t.user t.symbol) = none) :
    file t ls = ls := by
  induction ls with
  | nil => rfl
  | cons first ls ih =>
    rw [List.find?_cons] at missing
    split at missing
    · cases missing
    · rename_i away
      rw [file, if_neg (Bool.eq_false_iff.1 away), ih missing]

/-- The lot that an exit finds stays among the others, with the exit added. -/
theorem add_mem_file (found : ls.find? (Lot.isAt t.user t.symbol) = some lot) :
    lot.add t ∈ file t ls := by
  induction ls with
  | nil => cases found
  | cons first ls ih =>
    unfold file
    split
    · rename_i here
      rw [List.find?_cons_of_pos here] at found
      cases found
      exact List.mem_cons_self
    · rename_i away
      rw [List.find?_cons_of_neg away] at found
      exact List.mem_cons_of_mem first (ih found)

theorem mem_file_of_mem {other : Lot} (found : ls.find? (Lot.isAt t.user t.symbol) = some lot)
    (mem : other ∈ ls) : other ∈ file t ls ∨ other = lot := by
  induction ls with
  | nil => cases mem
  | cons first ls ih =>
    unfold file
    split
    · rename_i here
      rw [List.find?_cons_of_pos here] at found
      cases found
      rcases List.mem_cons.1 mem with rfl | later
      · exact Or.inr rfl
      · exact Or.inl (List.mem_cons_of_mem _ later)
    · rename_i away
      rw [List.find?_cons_of_neg away] at found
      rcases List.mem_cons.1 mem with rfl | later
      · exact Or.inl List.mem_cons_self
      · exact (ih found later).imp_left (List.mem_cons_of_mem first)

theorem length_trades_file_le (t : Trade) (ls : List Lot) :
    ((file t ls).flatMap Lot.trades).length ≤ (ls.flatMap Lot.trades).length + 1 := by
  cases found : ls.find? (Lot.isAt t.user t.symbol) with
  | none =>
    rw [file_of_not_found found]
    exact Nat.le_succ _
  | some lot => exact (trades_file found).length_eq.le

/-- Lots contain no more trades than they were made of. -/
theorem length_trades_lots_le (trades : List Trade) :
    ((lots trades).flatMap Lot.trades).length ≤ trades.length := by
  induction trades with
  | nil => exact Nat.le_refl 0
  | cons t trades ih =>
    cases kind : t.kind with
    | entry =>
      rw [lots_entry kind, List.flatMap_cons, List.length_append]
      change 1 + _ ≤ _ + 1
      omega
    | exit =>
      rw [lots_exit kind]
      exact (length_trades_file_le t (lots trades)).trans (Nat.succ_le_succ ih)

/-- An exit adds to a sum over the lots what it adds to the lot that it finds. -/
theorem sum_map_file (found : ls.find? (Lot.isAt t.user t.symbol) = some lot) (f : Lot → ℚ) :
    ((file t ls).map f).sum = (ls.map f).sum + (f (lot.add t) - f lot) := by
  induction ls with
  | nil => cases found
  | cons first ls ih =>
    unfold file
    split
    · rename_i here
      rw [List.find?_cons_of_pos here] at found
      cases found
      rw [List.map_cons, List.map_cons, List.sum_cons, List.sum_cons]
      ring
    · rename_i away
      rw [List.find?_cons_of_neg away] at found
      rw [List.map_cons, List.map_cons, List.sum_cons, List.sum_cons, ih found]
      ring

/-! ## Accounted trades -/

/-- Whether the lots of trades contain every trade once, and match their exits with their
entries. -/
structure Accounted (trades : List Trade) : Prop where
  filed : ((lots trades).flatMap Lot.trades).Perm trades
  matched : ∀ lot ∈ lots trades, lot.IsMatched

namespace Accounted

theorem nil : Accounted [] :=
  ⟨List.Perm.nil, fun _ mem ↦ by cases mem⟩

theorem entry (h : Accounted trades) (kind : t.kind = .entry) (profit : t.profit = Decimal.zero) :
    Accounted (t :: trades) := by
  constructor
  · rw [lots_entry kind]
    exact h.filed.cons t
  · rw [lots_entry kind]
    apply List.forall_mem_cons.2 ⟨⟨profit, ?_⟩, h.matched⟩
    intro exit mem
    cases mem

theorem exit (h : Accounted trades)
    (latest : latestLot? t.user t.symbol trades = some lot) (closes : Lot.Closes lot.entry t) :
    Accounted (t :: trades) := by
  constructor
  · rw [lots_exit closes.kind]
    exact (trades_file latest).trans (h.filed.cons t)
  · rw [lots_exit closes.kind]
    intro other mem
    rcases mem_file latest mem with rfl | old
    · have before := h.matched lot (List.mem_of_find?_eq_some latest)
      exact ⟨before.entry, List.forall_mem_cons.2 ⟨closes, before.exits⟩⟩
    · exact h.matched other old

/-- Without a trade that is an entry, the older ones are accounted for. -/
theorem older_of_entry (h : Accounted (t :: trades)) (kind : t.kind = .entry) :
    Accounted trades := by
  have filed := h.filed
  have matched := h.matched
  rw [lots_entry kind] at filed matched
  exact ⟨filed.cons_inv, (List.forall_mem_cons.1 matched).2⟩

/-- A trade that is an exit closes a part of the latest lot of the older ones, which are accounted
for without it. -/
theorem older_of_exit (h : Accounted (t :: trades)) (kind : t.kind = .exit) :
    ∃ lot, latestLot? t.user t.symbol trades = some lot ∧ Lot.Closes lot.entry t ∧
      Accounted trades := by
  have filed := h.filed
  have matched := h.matched
  rw [lots_exit kind] at filed matched
  cases found : (lots trades).find? (Lot.isAt t.user t.symbol) with
  | none =>
    -- an exit without a lot would be missing from the lots
    rw [file_of_not_found found] at filed
    have short := length_trades_lots_le trades
    rw [filed.length_eq, List.length_cons] at short
    omega
  | some lot =>
    have changed := matched _ (add_mem_file found)
    refine ⟨lot, found, changed.exits t List.mem_cons_self, ?_, ?_⟩
    · exact ((trades_file found).symm.trans filed).cons_inv
    · intro other old
      rcases mem_file_of_mem found old with kept | rfl
      · exact matched other kept
      · exact ⟨changed.entry, fun exit mem ↦ changed.exits exit (List.mem_cons_of_mem t mem)⟩

theorem entry_mem (h : Accounted trades) (mem : lot ∈ lots trades) : lot.entry ∈ trades :=
  h.filed.mem_iff.1 (List.mem_flatMap.2 ⟨lot, mem, List.mem_cons_self⟩)

/-- An entry has no result. -/
theorem profit_of_entry (h : Accounted trades) (mem : t ∈ trades) (kind : t.kind = .entry) :
    t.profit = Decimal.zero := by
  obtain ⟨lot, listed, inLot⟩ := List.mem_flatMap.1 (h.filed.mem_iff.2 mem)
  rcases List.mem_cons.1 inLot with rfl | closing
  · exact (h.matched lot listed).entry
  · rw [((h.matched lot listed).exits t closing).kind] at kind
    cases kind

end Accounted

/-! ## Money -/

/-- What an exit received and gave away, at a price, is its result less what its quantity would have
brought. -/
theorem Lot.Closes.marked {entry : Trade} (closes : Closes entry t)
    (exact : entry.side.ProfitsExactly entry.price t.quantity t.price) (price : ℚ) :
    t.cashFlow + t.signedQuantity * price =
      t.profit.value - entry.side.sign * t.quantity.value * (price - entry.price.value) := by
  rw [Trade.cashFlow, Trade.signedQuantity, closes.side, Side.sign_opposite,
    Side.value_profit? exact closes.profit]
  ring

theorem Lot.sum_marked {entry : Trade} {exits : List Trade} (closes : ∀ t ∈ exits, Closes entry t)
    (exact : ∀ t ∈ exits, entry.side.ProfitsExactly entry.price t.quantity t.price)
    (m : String → ℚ) :
    (exits.map fun t ↦ t.cashFlow + t.signedQuantity * m t.symbol).sum =
      (exits.map (·.profit.value)).sum - entry.side.sign * (exits.map (·.quantity.value)).sum *
        (m entry.symbol - entry.price.value) := by
  induction exits with
  | nil => simp
  | cons t exits ih =>
    obtain ⟨here, later⟩ := List.forall_mem_cons.1 closes
    obtain ⟨exactHere, exactLater⟩ := List.forall_mem_cons.1 exact
    rw [List.map_cons, List.map_cons, List.map_cons, List.sum_cons, List.sum_cons, List.sum_cons,
      ih later exactLater, here.symbol, here.marked exactHere]
    ring

/-- The trades of a lot account for its results and for what its leftover would bring. -/
theorem Lot.IsMatched.marked (matched : lot.IsMatched) (exact : lot.IsExact) (m : String → ℚ) :
    (lot.trades.map fun t ↦ t.cashFlow + t.signedQuantity * m t.symbol).sum =
      (lot.trades.map (·.profit.value)).sum + lot.unrealized (m lot.entry.symbol) := by
  rw [Lot.trades, List.map_cons, List.map_cons, List.sum_cons, List.sum_cons,
    Lot.sum_marked matched.exits exact, matched.entry, Decimal.value_zero, Trade.cashFlow,
    Trade.signedQuantity, Lot.unrealized, Lot.leftover]
  ring

/-- A sum over accounted trades is a sum over their lots. -/
theorem Accounted.sum_map (h : Accounted trades) (f : Trade → ℚ) :
    (trades.map f).sum = ((lots trades).map fun lot ↦ (lot.trades.map f).sum).sum := by
  rw [← (h.filed.map f).sum_eq, List.map_flatMap, List.flatMap, List.sum_flatten, List.map_map]
  rfl

/-- The results of accounted trades are those of their exits. -/
theorem Accounted.sum_profit (h : Accounted trades) :
    ((trades.filter (·.kind = .exit)).map (·.profit.value)).sum =
      (trades.map (·.profit.value)).sum := by
  apply sum_map_filter
  intro t mem entered
  have kind : t.kind = .entry := by
    cases kind : t.kind with
    | entry => rfl
    | exit => simp [kind] at entered
  rw [h.profit_of_entry mem kind, Decimal.value_zero]

/-- Accounted trades account for the results of the exits and for what the lots would bring. -/
theorem Accounted.marked (h : Accounted trades) (exact : ∀ lot ∈ lots trades, lot.IsExact)
    (m : String → ℚ) :
    (trades.map fun t ↦ t.cashFlow + t.signedQuantity * m t.symbol).sum =
      (trades.map (·.profit.value)).sum +
        ((lots trades).map fun lot ↦ lot.unrealized (m lot.entry.symbol)).sum := by
  rw [h.sum_map, h.sum_map, ← List.sum_map_add]
  apply congrArg List.sum
  apply List.map_congr_left
  intro lot mem
  exact (h.matched lot mem).marked (exact lot mem) m

/-! ## Statistics -/

/-- The result that statistics show is the sum of the results of the exits. -/
theorem Statistics.realizedProfit_of_foldlM {trades : List Trade} {start statistics : Statistics}
    (h : trades.foldlM Statistics.add? start = some statistics) :
    ((trades.filter (·.kind = .exit)).map (·.profit)).foldlM Decimal.add? start.realizedProfit =
      some statistics.realizedProfit := by
  induction trades generalizing start with
  | nil =>
    cases h
    rfl
  | cons t trades ih =>
    obtain ⟨next, added, h⟩ := Option.bind_eq_some_iff.1 h
    obtain ⟨fees, -, added⟩ := Option.bind_eq_some_iff.1 added
    obtain ⟨notional, -, added⟩ := Option.bind_eq_some_iff.1 added
    obtain ⟨volume, -, added⟩ := Option.bind_eq_some_iff.1 added
    cases kind : t.kind with
    | entry =>
      simp only [kind] at added
      cases added
      rw [List.filter_cons_of_neg (by simp [kind])]
      have later := ih h
      exact later
    | exit =>
      simp only [kind] at added
      obtain ⟨profit, summed, added⟩ := Option.bind_eq_some_iff.1 added
      cases added
      rw [List.filter_cons_of_pos (by simp [kind]), List.map_cons, List.foldlM_cons, summed]
      exact ih h

/-- Whether the results of the exits of a ledger add up without rounding. -/
def RealizesExactly (l : Ledger) : Prop :=
  ∀ trades, l.readTrades none (-1) = .ok trades →
    Decimal.SumsExactly Decimal.zero ((trades.filter (·.kind = .exit)).map (·.profit))

end Ledger

end TradingDesk
