import TradingDesk.Proofs.Execution.Results
import TradingDesk.Proofs.Ledger.Lots

/-!
# Net Results by Lots

Where a fee is taken on the value of every trade, the cash of a lot is its net result, less what the
leftover of its entry cost.  The net results that are read off the ledger carry two fees that were
rounded to eight digits, the one of the exit and the one of its share of the entry.  Each of them
misses by half of the last digit at most, and a net result by the whole of it.
-/

namespace TradingDesk

/-- What a trade adds to the cash when a fee is taken on its value. -/
def Trade.cashAfterFee (rate : ℚ) (t : Trade) : ℚ :=
  t.cashFlow - rate * (t.quantity.value * t.price.value)

namespace Ledger

/-! ## Lots after fees -/

namespace Lot

/-- The result of an exit from an entry after the fees on both. -/
def netOf (rate : ℚ) (entry t : Trade) : ℚ :=
  t.profit.value - rate * (t.quantity.value * t.price.value) -
    rate * (t.quantity.value * entry.price.value)

/-- What the exits of a lot came to after fees. -/
def net (rate : ℚ) (lot : Lot) : ℚ :=
  (lot.exits.map (netOf rate lot.entry)).sum

/-- What the leftover of a lot took from the cash at its entry, with the fee. -/
def tied (rate : ℚ) (lot : Lot) : ℚ :=
  (lot.entry.side.sign + rate) * (lot.leftover * lot.entry.price.value)

theorem tied_of_sold {lot : Lot} (sold : lot.leftover = 0) (rate : ℚ) : lot.tied rate = 0 := by
  rw [tied, sold, zero_mul, mul_zero]

theorem net_add (rate : ℚ) (lot : Lot) (t : Trade) :
    (lot.add t).net rate - lot.net rate = netOf rate lot.entry t := by
  change ((t :: lot.exits).map (netOf rate lot.entry)).sum - lot.net rate = _
  rw [List.map_cons, List.sum_cons, net, add_sub_cancel_right]

variable {lot : Lot} {entry t : Trade}

/-- An exit brings its net result, and what its quantity took from the cash at the entry. -/
theorem Closes.cashAfterFee (closes : Closes entry t)
    (exact : entry.side.ProfitsExactly entry.price t.quantity t.price) (rate : ℚ) :
    t.cashAfterFee rate = netOf rate entry t +
      (entry.side.sign + rate) * (t.quantity.value * entry.price.value) := by
  rw [Trade.cashAfterFee, Trade.cashFlow, netOf, closes.side, Side.sign_opposite,
    Side.value_profit? exact closes.profit]
  ring

theorem sum_cashAfterFee {exits : List Trade} (closes : ∀ t ∈ exits, Closes entry t)
    (exact : ∀ t ∈ exits, entry.side.ProfitsExactly entry.price t.quantity t.price) (rate : ℚ) :
    (exits.map (·.cashAfterFee rate)).sum = (exits.map (netOf rate entry)).sum +
      (entry.side.sign + rate) * ((exits.map (·.quantity.value)).sum * entry.price.value) := by
  induction exits with
  | nil => simp
  | cons t exits ih =>
    obtain ⟨here, later⟩ := List.forall_mem_cons.1 closes
    obtain ⟨exactHere, exactLater⟩ := List.forall_mem_cons.1 exact
    rw [List.map_cons, List.map_cons, List.map_cons, List.sum_cons, List.sum_cons, List.sum_cons,
      ih later exactLater, here.cashAfterFee exactHere]
    ring

/-- The cash of a lot is its net result less what the leftover took from it. -/
theorem IsMatched.cashAfterFee (matched : lot.IsMatched) (exact : lot.IsExact) (rate : ℚ) :
    (lot.trades.map (·.cashAfterFee rate)).sum = lot.net rate - lot.tied rate := by
  rw [Lot.trades, List.map_cons, List.sum_cons, sum_cashAfterFee matched.exits exact,
    Trade.cashAfterFee, Trade.cashFlow, net, tied, leftover]
  ring

end Lot

variable {trades : List Trade}

/-- The cash of accounted trades is the net result of their lots less what the leftovers took from
it. -/
theorem Accounted.cashAfterFee (h : Accounted trades) (exact : ∀ lot ∈ lots trades, lot.IsExact)
    (rate : ℚ) :
    (trades.map (·.cashAfterFee rate)).sum =
      ((lots trades).map (·.net rate)).sum - ((lots trades).map (·.tied rate)).sum := by
  rw [h.sum_map, eq_sub_iff_add_eq, ← List.sum_map_add]
  apply congrArg List.sum
  apply List.map_congr_left
  intro lot mem
  rw [(h.matched lot mem).cashAfterFee (exact lot mem), sub_add_cancel]

/-- The latest entry is that of the latest lot. -/
theorem entryPrice?_eq_latestLot? (user symbol : String) (trades : List Trade) :
    Execution.entryPrice? user symbol trades =
      (latestLot? user symbol trades).map (·.entry.price) := by
  induction trades with
  | nil => rfl
  | cons t trades ih =>
    cases kind : t.kind with
    | entry =>
      by_cases here : t.user = user ∧ t.symbol = symbol
      · obtain ⟨rfl, rfl⟩ := here
        rw [Execution.entryPrice?_cons_self kind, latestLot?_entry_self kind]
        rfl
      · rw [Execution.entryPrice?_cons_of_ne here, latestLot?_entry_of_ne kind here, ih]
    | exit =>
      rw [Execution.entryPrice?_cons_of_exit kind, ih]
      by_cases here : t.user = user ∧ t.symbol = symbol
      · obtain ⟨rfl, rfl⟩ := here
        rw [latestLot?_exit_self kind, Option.map_map]
        rfl
      · rw [latestLot?_exit_of_ne kind here]

end Ledger

namespace Execution

variable {s : Settings} {user : String} {older trades : List Trade} {t : Trade} {net : Decimal}

/-! ## Rounded fees -/

/-- Whether the fee on a quantity at a price needs no rounding before the one to its last digit. -/
def Settings.ChargesExactly (s : Settings) (quantity price : Decimal) : Prop :=
  Decimal.MultipliesExactly quantity price ∧
    ∀ notional ∈ Decimal.mul? quantity price, Decimal.MultipliesExactly notional s.feeRate

instance (s : Settings) (quantity price : Decimal) : Decidable (s.ChargesExactly quantity price) :=
  inferInstanceAs (Decidable (_ ∧ ∀ notional ∈ Decimal.mul? quantity price, _))

theorem Settings.abs_fee?_sub_le {quantity price fee : Decimal}
    (exact : s.ChargesExactly quantity price) (h : s.fee? quantity price = some fee) :
    |fee.value - s.feeRate.value * (quantity.value * price.value)| ≤ 1 / 2 / 10 ^ 8 := by
  obtain ⟨notional, multiplied, h⟩ := Option.bind_eq_some_iff.1 h
  obtain ⟨raw, charged, h⟩ := Option.bind_eq_some_iff.1 h
  cases h
  have product : raw.value = s.feeRate.value * (quantity.value * price.value) := by
    rw [exact.2 notional multiplied raw charged, exact.1 notional multiplied, mul_comm]
  rw [← product]
  exact Decimal.abs_round_sub_le raw 8

/-! ## Net results -/

/-- Whether the net result of an exit needs no rounding apart from that of its fees, given the
trades before it. -/
def NetsExactly (s : Settings) (older : List Trade) (t : Trade) : Prop :=
  s.ChargesExactly t.quantity t.price ∧ Decimal.SubtractsExactly t.profit t.fee ∧
    ∀ price ∈ entryPrice? t.user t.symbol older, s.ChargesExactly t.quantity price ∧
      ∀ entryFee ∈ s.fee? t.quantity price, ∀ afterExit ∈ Decimal.sub? t.profit t.fee,
        Decimal.SubtractsExactly afterExit entryFee

instance (s : Settings) (older : List Trade) (t : Trade) : Decidable (NetsExactly s older t) :=
  inferInstanceAs (Decidable (_ ∧ _ ∧ ∀ price ∈ entryPrice? t.user t.symbol older, _ ∧
    ∀ entryFee ∈ s.fee? t.quantity price, ∀ afterExit ∈ Decimal.sub? t.profit t.fee, _))

/-- Whether the net results of all exits among trades need no rounding apart from that of their
fees. -/
def AllNetExactly (s : Settings) : List Trade → Prop
  | [] => True
  | t :: older => (t.kind = .exit → NetsExactly s older t) ∧ AllNetExactly s older

instance AllNetExactly.decidable (s : Settings) :
    (trades : List Trade) → Decidable (AllNetExactly s trades)
  | [] => inferInstanceAs (Decidable True)
  | t :: older =>
    have : Decidable (AllNetExactly s older) := decidable s older
    inferInstanceAs (Decidable ((t.kind = .exit → NetsExactly s older t) ∧ AllNetExactly s older))

/-- A net result misses the one of its lot by what the rounding of two fees moves it. -/
theorem abs_netResult?_sub_le {entry : Trade} (exact : NetsExactly s older t)
    (charged : s.fee? t.quantity t.price = some t.fee)
    (entered : entryPrice? t.user t.symbol older = some entry.price)
    (h : netResult? s older t = some net) :
    |net.value - Ledger.Lot.netOf s.feeRate.value entry t| ≤ 1 / 10 ^ 8 := by
  obtain ⟨price, found, h⟩ := Option.bind_eq_some_iff.1 h
  rw [entered] at found
  cases found
  obtain ⟨entryFee, taken, h⟩ := Option.bind_eq_some_iff.1 h
  obtain ⟨afterExit, reduced, h⟩ := Option.bind_eq_some_iff.1 h
  obtain ⟨exitExact, reduces, entryExact⟩ := exact
  obtain ⟨entryExact, reducesMore⟩ := entryExact entry.price entered
  have exitFee := Settings.abs_fee?_sub_le exitExact charged
  have share := Settings.abs_fee?_sub_le entryExact taken
  have result : net.value = t.profit.value - t.fee.value - entryFee.value := by
    rw [reducesMore entryFee taken afterExit reduced net h, reduces afterExit reduced]
  have apart : net.value - Ledger.Lot.netOf s.feeRate.value entry t =
      -(t.fee.value - s.feeRate.value * (t.quantity.value * t.price.value)) -
        (entryFee.value - s.feeRate.value * (t.quantity.value * entry.price.value)) := by
    rw [result, Ledger.Lot.netOf]
    ring
  rw [apart]
  calc
    _ ≤ 1 / 2 / 10 ^ 8 + 1 / 2 / 10 ^ 8 := by
      refine (abs_sub _ _).trans (add_le_add ?_ share)
      rwa [abs_neg]
    _ = (1 : ℚ) / 10 ^ 8 := by norm_num

theorem netResults?_length {nets : List Decimal} (h : netResults? s user trades = some nets) :
    nets.length = (trades.filter (Ledger.isExitOf user)).length := by
  induction trades generalizing nets with
  | nil =>
    cases h
    rfl
  | cons t older ih =>
    unfold netResults? at h
    split at h
    · rename_i ofUser
      obtain ⟨before, earlier, h⟩ := Option.bind_eq_some_iff.1 h
      obtain ⟨net, -, h⟩ := Option.bind_eq_some_iff.1 h
      cases h
      rw [List.filter_cons_of_pos ofUser, List.length_cons, List.length_cons, ih earlier]
    · rename_i other
      rw [List.filter_cons_of_neg other, ih h]

/-- The net results of a user who alone traded miss those of the lots by one in the eighth digit for
each exit. -/
theorem abs_netResults?_sub_le {nets : List Decimal} (accounted : Ledger.Accounted trades)
    (own : ∀ t ∈ trades, t.user = user)
    (charged : ∀ t ∈ trades, s.fee? t.quantity t.price = some t.fee)
    (exact : AllNetExactly s trades) (h : netResults? s user trades = some nets) :
    |(nets.map Decimal.value).sum - ((Ledger.lots trades).map (·.net s.feeRate.value)).sum| ≤
      nets.length / 10 ^ 8 := by
  induction trades generalizing nets with
  | nil =>
    cases h
    simp [Ledger.lots]
  | cons t older ih =>
    obtain ⟨here, own⟩ := List.forall_mem_cons.1 own
    obtain ⟨fee, charged⟩ := List.forall_mem_cons.1 charged
    obtain ⟨exactHere, exact⟩ := exact
    cases kind : t.kind with
    | entry =>
      rw [netResults?, if_neg (by simp [Ledger.isExitOf, kind])] at h
      have before := ih (accounted.older_of_entry kind) own charged exact h
      rw [Ledger.lots_entry kind, List.map_cons, List.sum_cons]
      change |_ - (0 + _)| ≤ _
      rwa [zero_add]
    | exit =>
      obtain ⟨lot, latest, -, accounted'⟩ := accounted.older_of_exit kind
      rw [netResults?, if_pos (by simp [Ledger.isExitOf, kind, here])] at h
      obtain ⟨earlier, known, h⟩ := Option.bind_eq_some_iff.1 h
      obtain ⟨net, booked, h⟩ := Option.bind_eq_some_iff.1 h
      cases h
      have entered : entryPrice? t.user t.symbol older = some lot.entry.price := by
        rw [Ledger.entryPrice?_eq_latestLot?, latest]
        rfl
      have before := ih accounted' own charged exact known
      have last := abs_netResult?_sub_le (exactHere kind) fee entered booked
      rw [Ledger.lots_exit kind, Ledger.sum_map_file latest, Ledger.Lot.net_add, List.map_cons,
        List.sum_cons, List.length_cons, add_comm net.value, add_sub_add_comm]
      calc
        _ ≤ (earlier.length : ℚ) / 10 ^ 8 + 1 / 10 ^ 8 :=
          (abs_add_le _ _).trans (add_le_add before last)
        _ = ((earlier.length + 1 : ℕ) : ℚ) / 10 ^ 8 := by
          rw [Nat.cast_succ, add_div]

end Execution

end TradingDesk
