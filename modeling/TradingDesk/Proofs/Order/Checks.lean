import TradingDesk.Proofs.Order.Confirmation
import TradingDesk.Proofs.Text.Blank

/-!
# The Checks of a Response

Confirmation looks at a response in six checks: the error text, a status that means failure, the
identifier, the status of a live or completed order, the symbol and the price.  Here every check
says on its own which responses it refuses and why, in terms of the fields alone.  A response is
confirmed exactly when it passes them all, and otherwise the first check that it fails gives the
refusal.  The quantity that was asked for plays no part in this.

What is left are the responses whose amounts cannot be added, multiplied or divided in range.  Such
a response has neither a fill nor a refusal, unless an earlier check refuses it.
-/

namespace TradingDesk.Order

namespace Response

/-! ## What the fields say -/

/-- The identifiers of a response, in the order in which they are looked at. -/
def identifiers (r : Response) : List String :=
  r.orderId.toList ++ r.id.toList ++ r.transactionIds

/-- Whether a text is the first identifier that is not blank, without surrounding blanks. -/
def IsReference (r : Response) (reference : String) : Prop :=
  ∃ before identifier after, r.identifiers = before ++ identifier :: after ∧
    (∀ earlier ∈ before, Text.IsBlank earlier) ∧ ¬Text.IsBlank identifier ∧
    reference = Text.trim identifier

/-- Whether the mean price of the fills weighted by quantity is `mean`. -/
def IsMean (fills : List Fill) (mean : Decimal) : Prop :=
  ∃ total amounts sum, filledTotal? fills = some total ∧ Decimal.zero < total ∧
    fills.mapM (fun f ↦ Decimal.mul? f.price f.quantity) = some amounts ∧
    Decimal.sum? amounts = some sum ∧ Decimal.div? sum total = some mean

/-- Whether the fills have no mean price, because their total quantity is not positive. -/
def HasNoMean (fills : List Fill) : Prop :=
  ∃ total, filledTotal? fills = some total ∧ total ≤ Decimal.zero

/-- Whether a price is the first one present in a response. -/
inductive NamesPrice (r : Response) : Decimal → Prop where
  | average {price : Decimal} (named : r.averageFilledPrice = some price) : NamesPrice r price
  | filled {price : Decimal} (noAverage : r.averageFilledPrice = none)
    (named : r.filledPrice = some price) : NamesPrice r price
  | weighted {mean : Decimal} (noAverage : r.averageFilledPrice = none)
    (unfilled : r.filledPrice = none) (isMean : IsMean r.fills mean) : NamesPrice r mean
  | plain {price : Decimal} (noAverage : r.averageFilledPrice = none)
    (unfilled : r.filledPrice = none) (noMean : HasNoMean r.fills)
    (named : r.price = some price) : NamesPrice r price

/-- Whether no price is present in a response. -/
structure NamesNoPrice (r : Response) : Prop where
  noAverage : r.averageFilledPrice = none
  unfilled : r.filledPrice = none
  noMean : HasNoMean r.fills
  noPlain : r.price = none

/-- Whether a response is a usable answer to an order in a symbol. -/
structure IsUsable (r : Response) (symbol : String) : Prop where
  quiet : ∀ text, r.error = some text → Text.IsBlank text
  named : ∃ identifier ∈ r.identifiers, ¬Text.IsBlank identifier
  live : ∃ status, r.status = some status ∧
    Text.lowercase (Text.trim status) ∈ acceptedStatuses
  about : ∀ actual, r.symbol = some actual → normalizeSymbol actual = normalizeSymbol symbol
  priced : ∃ price, r.NamesPrice price ∧ Decimal.zero < price

end Response

/-! ## The checks -/

/-- A check of confirmation. -/
inductive Check where
  | errorText
  | errorStatus
  | identifier
  | status
  | symbol
  | price
deriving DecidableEq

namespace Check

/-- The checks before the price, in their order. -/
def early : List Check :=
  [errorText, errorStatus, identifier, status, symbol]

/-- All checks in their order. -/
def all : List Check :=
  early ++ [price]

/-- The refusal that a check has for a response to an order in a symbol. -/
inductive Refuses (r : Response) (symbol : String) : Check → Refusal → Prop where
  | errorText {text : String} (stated : r.error = some text) (loud : ¬Text.IsBlank text) :
    Refuses r symbol .errorText (.brokerError (Text.trim text))
  | errorStatus {status : String} (stated : r.status = some status)
    (failed : Text.lowercase (Text.trim status) ∈ failedStatuses) :
    Refuses r symbol .errorStatus (.failedStatus (Text.lowercase (Text.trim status)))
  | unnamed (blank : ∀ identifier ∈ r.identifiers, Text.IsBlank identifier) :
    Refuses r symbol .identifier .noReference
  | missing (unstated : ∀ status, r.status = some status → Text.IsBlank status) :
    Refuses r symbol .status .missingStatus
  | unexpected {status : String} (stated : r.status = some status)
    (loud : ¬Text.IsBlank status)
    (unexpected : Text.lowercase (Text.trim status) ∉ acceptedStatuses) :
    Refuses r symbol .status (.unexpectedStatus (Text.lowercase (Text.trim status)))
  | otherSymbol {actual : String} (about : r.symbol = some actual)
    (other : normalizeSymbol actual ≠ normalizeSymbol symbol) :
    Refuses r symbol .symbol (.wrongSymbol symbol actual)
  | badPrice {price : Decimal} (named : r.NamesPrice price) (low : price ≤ Decimal.zero) :
    Refuses r symbol .price (.badPrice price)
  | noPrice (unpriced : r.NamesNoPrice) : Refuses r symbol .price .noPrice

/-- Whether a response passes a check. -/
def Passes (check : Check) (r : Response) (symbol : String) : Prop :=
  ∀ refusal, ¬check.Refuses r symbol refusal

/-- The refusal of a check, read off the views of the response. -/
def refusal? (r : Response) (symbol : String) : Check → Option Refusal
  | .errorText => r.errorMessage?.map .brokerError
  | .errorStatus => (r.normalizedStatus?.filter (· ∈ failedStatuses)).map .failedStatus
  | .identifier => if r.reference? = none then some .noReference else none
  | .status =>
    match r.normalizedStatus? with
    | none => some .missingStatus
    | some word => if word ∈ acceptedStatuses then none else some (.unexpectedStatus word)
  | .symbol =>
    (r.symbol.filter (normalizeSymbol · ≠ normalizeSymbol symbol)).map (.wrongSymbol symbol)
  | .price => (fillPrice? r).bind fun
    | .error refusal => some refusal
    | .ok _ => none

end Check

/-- Whether a refusal is that of the first check that a response fails. -/
def FirstRefusal (r : Response) (symbol : String) (refusal : Refusal) : Prop :=
  ∃ before check after, Check.all = before ++ check :: after ∧
    check.Refuses r symbol refusal ∧ ∀ earlier ∈ before, earlier.Passes r symbol

/-- Whether an amount that is needed is out of range: the mean price of the fills once the earlier
checks are passed, or their total once the price is positive. -/
structure Overflows (r : Response) (symbol : String) : Prop where
  reached : ∀ check ∈ Check.early, check.Passes r symbol
  outOfRange :
    (r.averageFilledPrice = none ∧ r.filledPrice = none ∧ weightedPrice? r.fills = none) ∨
    ((∃ price, r.NamesPrice price ∧ Decimal.zero < price) ∧
      (∀ volume, r.filledVolume = some volume → volume ≤ Decimal.zero) ∧
      filledTotal? r.fills = none)

/-! ## The views of a response -/

variable {r : Response} {symbol : String} {requested : Decimal} {refusal : Refusal}

theorem errorMessage?_eq_some_iff {text : String} :
    r.errorMessage? = some text ↔
      ∃ raw, r.error = some raw ∧ ¬Text.IsBlank raw ∧ Text.trim raw = text := by
  rw [Response.errorMessage?, Option.filter_eq_some_iff, Option.map_eq_some_iff]
  constructor
  · rintro ⟨⟨raw, stated, rfl⟩, loud⟩
    exact ⟨raw, stated, by simpa [← Text.isEmpty_trim_iff] using loud, rfl⟩
  · rintro ⟨raw, stated, loud, rfl⟩
    exact ⟨⟨raw, stated, rfl⟩, by simpa [← Text.isEmpty_trim_iff] using loud⟩

theorem normalizedStatus?_eq_some_iff {status : String} :
    r.normalizedStatus? = some status ↔ ∃ raw, r.status = some raw ∧ ¬Text.IsBlank raw ∧
      Text.lowercase (Text.trim raw) = status := by
  rw [Response.normalizedStatus?, Option.filter_eq_some_iff, Option.map_eq_some_iff]
  constructor
  · rintro ⟨⟨raw, stated, rfl⟩, loud⟩
    rw [Text.isEmpty_lowercase] at loud
    exact ⟨raw, stated, by simpa [← Text.isEmpty_trim_iff] using loud, rfl⟩
  · rintro ⟨raw, stated, loud, rfl⟩
    rw [Text.isEmpty_lowercase]
    exact ⟨⟨raw, stated, rfl⟩, by simpa [← Text.isEmpty_trim_iff] using loud⟩

theorem normalizedStatus?_eq_none_iff :
    r.normalizedStatus? = none ↔ ∀ raw, r.status = some raw → Text.IsBlank raw := by
  rw [Option.eq_none_iff_forall_ne_some]
  constructor
  · intro unstated raw stated
    by_contra loud
    exact unstated _ (normalizedStatus?_eq_some_iff.2 ⟨raw, stated, loud, rfl⟩)
  · intro blank status stated
    obtain ⟨raw, stated, loud, -⟩ := normalizedStatus?_eq_some_iff.1 stated
    exact loud (blank raw stated)

/-- A status that reads as a word of a list is not blank. -/
theorem normalizedStatus?_of_mem {raw : String} {words : List String} (clean : "" ∉ words)
    (stated : r.status = some raw) (mem : Text.lowercase (Text.trim raw) ∈ words) :
    r.normalizedStatus? = some (Text.lowercase (Text.trim raw)) := by
  refine normalizedStatus?_eq_some_iff.2 ⟨raw, stated, fun blank ↦ clean ?_, rfl⟩
  rw [← Text.isEmpty_trim_iff, ← Text.isEmpty_lowercase, String.isEmpty_iff] at blank
  rwa [blank] at mem

theorem reference?_eq_some_iff {reference : String} :
    r.reference? = some reference ↔ r.IsReference reference := by
  rw [Response.reference?, List.find?_map, Option.map_eq_some_iff]
  constructor
  · rintro ⟨identifier, found, rfl⟩
    obtain ⟨loud, before, after, split, blank⟩ := List.find?_eq_some_iff_append.1 found
    refine ⟨before, identifier, after, split, fun earlier mem ↦ ?_, ?_, rfl⟩
    · simpa [← Text.isEmpty_trim_iff] using blank earlier mem
    · simpa [← Text.isEmpty_trim_iff] using loud
  · rintro ⟨before, identifier, after, split, blank, loud, rfl⟩
    refine ⟨identifier, List.find?_eq_some_iff_append.2 ⟨?_, before, after, split, ?_⟩, rfl⟩
    · simpa [← Text.isEmpty_trim_iff] using loud
    · exact fun earlier mem ↦ by simpa [← Text.isEmpty_trim_iff] using blank earlier mem

theorem reference?_eq_none_iff :
    r.reference? = none ↔ ∀ identifier ∈ r.identifiers, Text.IsBlank identifier := by
  rw [Response.reference?, List.find?_eq_none, List.forall_mem_map]
  simp [Response.identifiers, ← Text.isEmpty_trim_iff]

/-! ## The price of a response -/

theorem weightedPrice?_of_isMean {fills : List Fill} {mean : Decimal}
    (isMean : Response.IsMean fills mean) : weightedPrice? fills = some (some mean) := by
  obtain ⟨total, amounts, sum, added, positive, multiplied, summed, divided⟩ := isMean
  simp [weightedPrice?, added, Decimal.not_le.2 positive, multiplied, summed, divided]

theorem weightedPrice?_of_hasNoMean {fills : List Fill} (noMean : Response.HasNoMean fills) :
    weightedPrice? fills = some none := by
  obtain ⟨total, added, low⟩ := noMean
  simp [weightedPrice?, added, low]

/-- The fills have a mean price or their total quantity is not positive, as far as they are in
range. -/
theorem weightedPrice?_cases {fills : List Fill} {weighted : Option Decimal}
    (h : weightedPrice? fills = some weighted) :
    (∃ mean, weighted = some mean ∧ Response.IsMean fills mean) ∨
      weighted = none ∧ Response.HasNoMean fills := by
  obtain ⟨total, added, h⟩ := Option.bind_eq_some_iff.1 h
  split at h
  · rename_i low
    cases h
    exact .inr ⟨rfl, total, added, low⟩
  · rename_i positive
    obtain ⟨amounts, multiplied, h⟩ := Option.bind_eq_some_iff.1 h
    obtain ⟨sum, summed, h⟩ := Option.bind_eq_some_iff.1 h
    obtain ⟨mean, divided, h⟩ := Option.bind_eq_some_iff.1 h
    cases h
    exact .inl ⟨mean, rfl, total, amounts, sum, added, Decimal.not_le.1 positive, multiplied,
      summed, divided⟩

theorem priceCandidate?_of_average {price : Decimal} (named : r.averageFilledPrice = some price) :
    priceCandidate? r = some (some price) := by
  simp [priceCandidate?, named]

theorem priceCandidate?_of_filled {price : Decimal} (noAverage : r.averageFilledPrice = none)
    (named : r.filledPrice = some price) : priceCandidate? r = some (some price) := by
  simp [priceCandidate?, noAverage, named]

theorem priceCandidate?_of_unfilled (noAverage : r.averageFilledPrice = none)
    (unfilled : r.filledPrice = none) :
    priceCandidate? r =
      (weightedPrice? r.fills).bind fun weighted ↦ some (weighted <|> r.price) := by
  simp [priceCandidate?, noAverage, unfilled]

/-- A response names a first price or none, as far as its fills are in range. -/
theorem priceCandidate?_cases {candidate : Option Decimal}
    (h : priceCandidate? r = some candidate) :
    (∃ price, candidate = some price ∧ r.NamesPrice price) ∨
      candidate = none ∧ r.NamesNoPrice := by
  cases average : r.averageFilledPrice with
  | some price =>
    rw [priceCandidate?_of_average average] at h
    cases h
    exact .inl ⟨price, rfl, .average average⟩
  | none =>
    cases filled : r.filledPrice with
    | some price =>
      rw [priceCandidate?_of_filled average filled] at h
      cases h
      exact .inl ⟨price, rfl, .filled average filled⟩
    | none =>
      rw [priceCandidate?_of_unfilled average filled] at h
      obtain ⟨weighted, weighed, h⟩ := Option.bind_eq_some_iff.1 h
      obtain ⟨mean, rfl, isMean⟩ | ⟨rfl, noMean⟩ := weightedPrice?_cases weighed
      · cases h
        exact .inl ⟨mean, rfl, .weighted average filled isMean⟩
      · cases plain : r.price with
        | some price =>
          rw [plain] at h
          cases h
          exact .inl ⟨price, rfl, .plain average filled noMean plain⟩
        | none =>
          rw [plain] at h
          cases h
          exact .inr ⟨rfl, average, filled, noMean, plain⟩

theorem priceCandidate?_of_namesPrice {price : Decimal} (named : r.NamesPrice price) :
    priceCandidate? r = some (some price) := by
  cases named with
  | average named => exact priceCandidate?_of_average named
  | filled noAverage named => exact priceCandidate?_of_filled noAverage named
  | weighted noAverage unfilled isMean =>
    rw [priceCandidate?_of_unfilled noAverage unfilled, weightedPrice?_of_isMean isMean]
    rfl
  | plain noAverage unfilled noMean named =>
    rw [priceCandidate?_of_unfilled noAverage unfilled, weightedPrice?_of_hasNoMean noMean, named]
    rfl

theorem priceCandidate?_of_namesNoPrice (unpriced : r.NamesNoPrice) :
    priceCandidate? r = some none := by
  rw [priceCandidate?_of_unfilled unpriced.noAverage unpriced.unfilled,
    weightedPrice?_of_hasNoMean unpriced.noMean, unpriced.noPlain]
  rfl

/-- A price that is read is positive, or it is refused. -/
theorem fillPrice?_cases (symbol : String) {priced : Except Refusal Decimal}
    (h : fillPrice? r = some priced) :
    (∃ price, priced = .ok price ∧ r.NamesPrice price ∧ Decimal.zero < price) ∨
      ∃ refusal, priced = .error refusal ∧ Check.price.Refuses r symbol refusal := by
  obtain ⟨candidate, found, h⟩ := Option.bind_eq_some_iff.1 h
  obtain ⟨price, rfl, named⟩ | ⟨rfl, unpriced⟩ := priceCandidate?_cases found
  · dsimp only at h
    split at h
    · rename_i positive
      cases h
      exact .inl ⟨price, rfl, named, positive⟩
    · rename_i low
      cases h
      exact .inr ⟨.badPrice price, rfl, .badPrice named (Decimal.not_lt.1 low)⟩
  · cases h
    exact .inr ⟨.noPrice, rfl, .noPrice unpriced⟩

theorem fillPrice?_eq_ok_iff {price : Decimal} :
    fillPrice? r = some (.ok price) ↔ r.NamesPrice price ∧ Decimal.zero < price := by
  constructor
  · intro priced
    obtain ⟨_, ⟨⟩, named, positive⟩ | ⟨_, ⟨⟩, -⟩ := fillPrice?_cases "" priced
    exact ⟨named, positive⟩
  · rintro ⟨named, positive⟩
    simp [fillPrice?, priceCandidate?_of_namesPrice named, positive]

theorem fillPrice?_eq_error_iff :
    fillPrice? r = some (.error refusal) ↔ Check.price.Refuses r symbol refusal := by
  constructor
  · intro priced
    obtain ⟨_, ⟨⟩, -⟩ | ⟨_, ⟨⟩, refused⟩ := fillPrice?_cases symbol priced
    exact refused
  · intro refused
    cases refused with
    | badPrice named low =>
      simp [fillPrice?, priceCandidate?_of_namesPrice named, Decimal.not_lt.2 low]
    | noPrice unpriced => simp [fillPrice?, priceCandidate?_of_namesNoPrice unpriced]

/-! ## The checks in order -/

theorem refusal?_status_eq_some_iff :
    Check.status.refusal? r symbol = some refusal ↔ Check.status.Refuses r symbol refusal := by
  cases stated : r.normalizedStatus? with
  | none =>
    simp only [Check.refusal?, stated, Option.some.injEq]
    have unstated := normalizedStatus?_eq_none_iff.1 stated
    constructor
    · rintro rfl
      exact .missing unstated
    · intro refused
      cases refused with
      | missing => rfl
      | unexpected stated loud => exact absurd (unstated _ stated) loud
  | some word =>
    simp only [Check.refusal?, stated, Option.ite_none_left_eq_some]
    obtain ⟨raw, found, loud, rfl⟩ := normalizedStatus?_eq_some_iff.1 stated
    constructor
    · rintro ⟨unexpected, ⟨⟩⟩
      exact .unexpected found loud unexpected
    · intro refused
      cases refused with
      | missing unstated => exact absurd (unstated _ found) loud
      | unexpected found' _ unexpected =>
        obtain rfl := Option.some.inj (found.symm.trans found')
        exact ⟨unexpected, rfl⟩

/-- What a check refuses is what its views show. -/
theorem refusal?_eq_some_iff {check : Check} :
    check.refusal? r symbol = some refusal ↔ check.Refuses r symbol refusal := by
  cases check with
  | errorText =>
    rw [Check.refusal?, Option.map_eq_some_iff]
    constructor
    · rintro ⟨text, message, rfl⟩
      obtain ⟨raw, stated, loud, rfl⟩ := errorMessage?_eq_some_iff.1 message
      exact .errorText stated loud
    · intro refused
      cases refused with
      | errorText stated loud =>
        exact ⟨_, errorMessage?_eq_some_iff.2 ⟨_, stated, loud, rfl⟩, rfl⟩
  | errorStatus =>
    rw [Check.refusal?, Option.map_eq_some_iff]
    constructor
    · rintro ⟨word, filtered, rfl⟩
      obtain ⟨normalized, failed⟩ := Option.filter_eq_some_iff.1 filtered
      obtain ⟨raw, stated, -, rfl⟩ := normalizedStatus?_eq_some_iff.1 normalized
      exact .errorStatus stated (of_decide_eq_true failed)
    · intro refused
      cases refused with
      | errorStatus stated failed =>
        refine ⟨_, Option.filter_eq_some_iff.2 ⟨?_, decide_eq_true failed⟩, rfl⟩
        exact normalizedStatus?_of_mem (by decide) stated failed
  | identifier =>
    rw [Check.refusal?, Option.ite_none_right_eq_some, reference?_eq_none_iff]
    constructor
    · rintro ⟨blank, ⟨⟩⟩
      exact .unnamed blank
    · intro refused
      cases refused with
      | unnamed blank => exact ⟨blank, rfl⟩
  | status => exact refusal?_status_eq_some_iff
  | symbol =>
    rw [Check.refusal?, Option.map_eq_some_iff]
    constructor
    · rintro ⟨actual, filtered, rfl⟩
      obtain ⟨about, other⟩ := Option.filter_eq_some_iff.1 filtered
      exact .otherSymbol about (of_decide_eq_true other)
    · intro refused
      cases refused with
      | otherSymbol about other =>
        exact ⟨_, Option.filter_eq_some_iff.2 ⟨about, decide_eq_true other⟩, rfl⟩
  | price =>
    rw [Check.refusal?, Option.bind_eq_some_iff, ← fillPrice?_eq_error_iff]
    constructor
    · rintro ⟨priced, found, refused⟩
      cases priced with
      | ok => cases refused
      | error reason =>
        cases refused
        exact found
    · exact fun refused ↦ ⟨.error refusal, refused, rfl⟩

/-- A check is passed when its views show no refusal. -/
theorem refusal?_eq_none_iff {check : Check} :
    check.refusal? r symbol = none ↔ check.Passes r symbol := by
  rw [Option.eq_none_iff_forall_ne_some]
  exact forall_congr' fun refusal ↦ not_congr refusal?_eq_some_iff

/-- The checks before the price give the identifier and the status, or the first refusal. -/
theorem identify_eq : identify r symbol =
    match Check.early.findSome? (Check.refusal? r symbol) with
    | some refusal => .error refusal
    | none => .ok (r.reference?.getD "", r.normalizedStatus?.getD "") := by
  cases broken : r.errorMessage? with
  | some text => simp [identify, Check.early, Check.refusal?, broken]; rfl
  | none =>
    cases stated : r.normalizedStatus? with
    | none =>
      cases named : r.reference? <;>
        simp [identify, Check.early, Check.refusal?, broken, stated, named] <;> rfl
    | some word =>
      by_cases failed : word ∈ failedStatuses
      · simp [identify, Check.early, Check.refusal?, broken, stated, failed, Option.filter_some]
        rfl
      · cases named : r.reference? with
        | none =>
          simp [identify, Check.early, Check.refusal?, broken, stated, failed, named]
          rfl
        | some reference =>
          by_cases accepted : word ∈ acceptedStatuses
          · cases about : r.symbol with
            | none =>
              simp [identify, Check.early, Check.refusal?, broken, stated, failed, named, accepted,
                about]
              rfl
            | some actual =>
              by_cases same : normalizeSymbol actual = normalizeSymbol symbol <;>
                simp [identify, Check.early, Check.refusal?, broken, stated, failed, named,
                  accepted, about, same, Option.filter_some] <;> rfl
          · simp [identify, Check.early, Check.refusal?, broken, stated, failed, named, accepted]
            rfl

/-- A response passes the checks before the price exactly when none of them has a refusal. -/
theorem early_eq_none_iff : Check.early.findSome? (Check.refusal? r symbol) = none ↔
    ∀ check ∈ Check.early, check.Passes r symbol := by
  simp only [List.findSome?_eq_none_iff, refusal?_eq_none_iff]

theorem identify_eq_ok {reference status : String}
    (h : identify r symbol = .ok (reference, status)) :
    r.reference? = some reference ∧ r.normalizedStatus? = some status ∧
      ∀ check ∈ Check.early, check.Passes r symbol := by
  rw [identify_eq] at h
  split at h
  · cases h
  · rename_i early
    have passed := early_eq_none_iff.1 early
    have named : r.reference? ≠ none := fun unnamed ↦
      passed .identifier (by decide) _ (.unnamed (reference?_eq_none_iff.1 unnamed))
    have live : r.normalizedStatus? ≠ none := fun unstated ↦
      passed .status (by decide) _ (.missing (normalizedStatus?_eq_none_iff.1 unstated))
    obtain ⟨first, named⟩ := Option.ne_none_iff_exists'.1 named
    obtain ⟨word, stated⟩ := Option.ne_none_iff_exists'.1 live
    rw [named, stated] at h
    cases h
    exact ⟨named, stated, passed⟩

theorem confirm?_of_refused
    (refused : Check.early.findSome? (Check.refusal? r symbol) = some refusal) :
    confirm? r symbol requested = some (.error refusal) := by
  simp [confirm?, identify_eq, refused]

theorem confirm?_of_early (early : Check.early.findSome? (Check.refusal? r symbol) = none) :
    confirm? r symbol requested = (fillPrice? r).bind fun priced ↦
      match priced with
      | .error refusal => some (.error refusal)
      | .ok price => (fillQuantity? r requested).bind fun quantity ↦
        some (.ok ⟨r.reference?.getD "", r.normalizedStatus?.getD "", price, quantity⟩) := by
  simp only [confirm?, identify_eq, early]
  rfl

/-- A response is refused exactly for the first check that it fails. -/
theorem confirm?_eq_error_iff :
    confirm? r symbol requested = some (.error refusal) ↔ FirstRefusal r symbol refusal := by
  have first : FirstRefusal r symbol refusal ↔
      Check.all.findSome? (Check.refusal? r symbol) = some refusal := by
    simp only [FirstRefusal, List.findSome?_eq_some_iff, refusal?_eq_some_iff,
      refusal?_eq_none_iff]
  rw [first, Check.all, List.findSome?_append]
  cases early : Check.early.findSome? (Check.refusal? r symbol) with
  | some earlier =>
    rw [confirm?_of_refused early]
    simp
  | none =>
    rw [confirm?_of_early early, Option.none_or, List.findSome?_singleton, refusal?_eq_some_iff,
      ← fillPrice?_eq_error_iff]
    cases fillPrice? r with
    | none => simp
    | some priced =>
      cases priced with
      | error other => simp
      | ok price => simp [Option.bind_eq_some_iff]

/-- A usable response passes the checks before the price and names a positive price. -/
theorem isUsable_iff : r.IsUsable symbol ↔
    (∀ check ∈ Check.early, check.Passes r symbol) ∧
      ∃ price, r.NamesPrice price ∧ Decimal.zero < price := by
  constructor
  · intro usable
    refine ⟨fun check mem refusal refused ↦ ?_, usable.priced⟩
    obtain ⟨status, stated, accepted⟩ := usable.live
    cases refused with
    | errorText stated loud => exact loud (usable.quiet _ stated)
    | errorStatus stated' failed =>
      obtain rfl := Option.some.inj (stated.symm.trans stated')
      exact not_mem_failedStatuses accepted failed
    | unnamed blank =>
      obtain ⟨identifier, mem, loud⟩ := usable.named
      exact loud (blank identifier mem)
    | missing unstated =>
      have some := normalizedStatus?_of_mem (by decide) stated accepted
      rw [normalizedStatus?_eq_none_iff.2 unstated] at some
      cases some
    | unexpected stated' loud unexpected =>
      obtain rfl := Option.some.inj (stated.symm.trans stated')
      exact unexpected accepted
    | otherSymbol about other => exact other (usable.about _ about)
    | badPrice | noPrice => simp [Check.early] at mem
  · rintro ⟨passed, priced⟩
    refine ⟨fun text stated ↦ ?_, ?_, ?_, fun actual about ↦ ?_, priced⟩
    · by_contra loud
      exact passed .errorText (by decide) _ (.errorText stated loud)
    · by_contra unnamed
      refine passed .identifier (by decide) _ (.unnamed fun identifier mem ↦ ?_)
      by_contra loud
      exact unnamed ⟨identifier, mem, loud⟩
    · by_contra dead
      by_cases unstated : ∀ status, r.status = some status → Text.IsBlank status
      · exact passed .status (by decide) _ (.missing unstated)
      · simp only [not_forall] at unstated
        obtain ⟨status, stated, loud⟩ := unstated
        exact passed .status (by decide) _
          (.unexpected stated loud fun accepted ↦ dead ⟨status, stated, accepted⟩)
    · by_contra other
      exact passed .symbol (by decide) _ (.otherSymbol about other)

/-! ## Amounts out of range -/

theorem fillPrice?_eq_none_iff : fillPrice? r = none ↔
    r.averageFilledPrice = none ∧ r.filledPrice = none ∧ weightedPrice? r.fills = none := by
  have candidate : fillPrice? r = none ↔ priceCandidate? r = none := by
    unfold fillPrice?
    cases priceCandidate? r with
    | none => simp
    | some named =>
      cases named with
      | none => simp
      | some price => by_cases positive : Decimal.zero < price <;> simp [positive]
  rw [candidate]
  cases average : r.averageFilledPrice with
  | some price => simp [priceCandidate?_of_average average]
  | none =>
    cases filled : r.filledPrice with
    | some price => simp [priceCandidate?_of_filled average filled]
    | none =>
      rw [priceCandidate?_of_unfilled average filled]
      cases weightedPrice? r.fills <;> simp

/-- There is no quantity when no positive volume is named and the total is out of range. -/
theorem fillQuantity?_eq_none_iff : fillQuantity? r requested = none ↔
    (∀ volume, r.filledVolume = some volume → volume ≤ Decimal.zero) ∧
      filledTotal? r.fills = none := by
  have unfilled : r.filledVolume.filter Decimal.isPositive = none ↔
      ∀ volume, r.filledVolume = some volume → volume ≤ Decimal.zero := by
    simp [Option.filter_eq_none_iff, Decimal.isPositive, Decimal.not_lt]
  rw [← unfilled]
  unfold fillQuantity?
  cases r.filledVolume.filter Decimal.isPositive with
  | some volume => simp
  | none => cases filledTotal? r.fills <;> simp

/-- Confirmation has no result exactly when an amount that it needs is out of range. -/
theorem confirm?_eq_none_iff : confirm? r symbol requested = none ↔ Overflows r symbol := by
  cases early : Check.early.findSome? (Check.refusal? r symbol) with
  | some refusal =>
    rw [confirm?_of_refused early]
    refine iff_of_false (Option.some_ne_none _) fun overflows ↦ ?_
    rw [early_eq_none_iff.2 overflows.reached] at early
    cases early
  | none =>
    have passed := early_eq_none_iff.1 early
    rw [confirm?_of_early early, Option.bind_eq_none_iff]
    constructor
    · intro none
      refine ⟨passed, ?_⟩
      cases priced : fillPrice? r with
      | none => exact .inl (fillPrice?_eq_none_iff.1 priced)
      | some result =>
        cases result with
        | error refusal => exact absurd (none _ priced) (Option.some_ne_none _)
        | ok price =>
          have unfilled : fillQuantity? r requested = Option.none := by
            have unconfirmed := none _ priced
            cases filled : fillQuantity? r requested with
            | none => rfl
            | some quantity => simp [filled] at unconfirmed
          exact .inr ⟨⟨price, fillPrice?_eq_ok_iff.1 priced⟩,
            fillQuantity?_eq_none_iff.1 unfilled⟩
    · rintro ⟨-, unpriced | ⟨⟨price, priced⟩, unfilled⟩⟩ result found
      · rw [fillPrice?_eq_none_iff.2 unpriced] at found
        cases found
      · rw [fillPrice?_eq_ok_iff.2 priced] at found
        cases found
        simp [fillQuantity?_eq_none_iff.2 unfilled]

theorem not_overflows_of_isSome (h : (confirm? r symbol requested).isSome) :
    ¬Overflows r symbol := by
  intro overflows
  rw [confirm?_eq_none_iff.2 overflows] at h
  cases h

/-! ## Confirmed responses -/

/-- A response that is confirmed is usable. -/
theorem isUsable_of_confirm? {fill : Confirmed}
    (confirmed : confirm? r symbol requested = some (.ok fill)) : r.IsUsable symbol := by
  obtain ⟨identified, priced, -⟩ := confirm?_eq_ok confirmed
  exact isUsable_iff.2
    ⟨(identify_eq_ok identified).2.2, fill.price, fillPrice?_eq_ok_iff.1 priced⟩

/-- A response whose amounts are in range is confirmed exactly when it is usable, with its first
identifier and its first price, and otherwise it is refused for the first check that it fails. -/
theorem confirms_exactly_usable (inRange : ¬Overflows r symbol) :
    ((∃ fill, confirm? r symbol requested = some (.ok fill)) ↔ r.IsUsable symbol) ∧
    (∀ fill, confirm? r symbol requested = some (.ok fill) →
      r.IsReference fill.orderId ∧ r.NamesPrice fill.price) ∧
    (¬r.IsUsable symbol → ∃ refusal, FirstRefusal r symbol refusal ∧
      confirm? r symbol requested = some (.error refusal)) := by
  have accepted : (∃ fill, confirm? r symbol requested = some (.ok fill)) ↔ r.IsUsable symbol := by
    constructor
    · rintro ⟨fill, confirmed⟩
      exact isUsable_of_confirm? confirmed
    · intro usable
      obtain ⟨passed, price, priced⟩ := isUsable_iff.1 usable
      have filled : fillQuantity? r requested ≠ none := fun unfilled ↦
        inRange ⟨passed, .inr ⟨⟨price, priced⟩, fillQuantity?_eq_none_iff.1 unfilled⟩⟩
      obtain ⟨quantity, filled⟩ := Option.ne_none_iff_exists'.1 filled
      rw [confirm?_of_early (early_eq_none_iff.2 passed), fillPrice?_eq_ok_iff.2 priced,
        Option.bind_some]
      simp [filled]
  refine ⟨accepted, fun fill confirmed ↦ ?_, fun unusable ↦ ?_⟩
  · obtain ⟨identified, priced, -⟩ := confirm?_eq_ok confirmed
    exact ⟨reference?_eq_some_iff.1 (identify_eq_ok identified).1,
      (fillPrice?_eq_ok_iff.1 priced).1⟩
  · cases confirmed : confirm? r symbol requested with
    | none => exact absurd (confirm?_eq_none_iff.1 confirmed) inRange
    | some result =>
      cases result with
      | ok fill => exact absurd (accepted.1 ⟨fill, confirmed⟩) unusable
      | error refusal => exact ⟨refusal, confirm?_eq_error_iff.1 confirmed, rfl⟩

/-- An answer with a blank identifier before the one that counts, an identifier and a status in
blanks, a symbol in another spelling, and two fills. -/
def mixedAnswer : Response :=
  { Response.empty with
    status := some " Filled "
    orderId := some " "
    id := some " o-1 "
    error := some " "
    symbol := some "btc/usd"
    price := some (Decimal.const 7 0)
    fills := [⟨Decimal.const 100 0, Decimal.one⟩, ⟨Decimal.const 200 0, Decimal.const 3 0⟩] }

/-- The answer is confirmed for its symbol, and refused for the symbol under another one. -/
theorem confirms_exactly_usable_mixedAnswer :
    (mixedAnswer.IsUsable "BTC-USD" ∧
      ∃ fill, confirm? mixedAnswer "BTC-USD" Decimal.one = some (.ok fill) ∧
        mixedAnswer.IsReference fill.orderId ∧ mixedAnswer.NamesPrice fill.price) ∧
    ∃ refusal, FirstRefusal mixedAnswer "ETH-USD" refusal ∧
      confirm? mixedAnswer "ETH-USD" Decimal.one = some (.error refusal) := by
  have confirmed : confirm? mixedAnswer "BTC-USD" Decimal.one =
      some (.ok ⟨"o-1", "filled", Decimal.const 175 0, Decimal.const 4 0⟩) := by
    decide +kernel
  have answered : (confirm? mixedAnswer "ETH-USD" Decimal.one).isSome := by decide +kernel
  have other : normalizeSymbol "btc/usd" ≠ normalizeSymbol "ETH-USD" := by decide
  have inRange : ¬Overflows mixedAnswer "BTC-USD" :=
    not_overflows_of_isSome (Option.isSome_of_eq_some confirmed)
  obtain ⟨accepts, carries, -⟩ := @confirms_exactly_usable _ _ Decimal.one inRange
  obtain ⟨-, -, refused⟩ :=
    @confirms_exactly_usable _ _ Decimal.one (not_overflows_of_isSome answered)
  exact ⟨⟨accepts.1 ⟨_, confirmed⟩, _, confirmed, carries _ confirmed⟩,
    refused fun usable ↦ other (usable.about _ rfl)⟩

end TradingDesk.Order
