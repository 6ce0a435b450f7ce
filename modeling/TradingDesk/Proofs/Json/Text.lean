import TradingDesk.Json.Reader
import TradingDesk.Json.Writer
import TradingDesk.Proofs.Text.Digits

/-!
# Compact Text Read Back

The compact text of a value is read back as the value.  The value has to be one that a text can hold:
its whole numbers fit 64 bits, its other numbers are read back from their own text, and it does not
nest deeper than the reader allows.

Every reading function takes what was written off the front and leaves the rest.  Only a number needs
to know how the rest begins, and inside a text it begins with a comma or a bracket.
-/

namespace TradingDesk.Json

variable {c x : Char} {cs rest : List Char}

/-! ## Tokens -/

/-- Whether the end of the text, a comma or a closing bracket follows. -/
def Stops (rest : List Char) : Prop :=
  ∀ c ∈ rest.head?, c ∈ [',', ']', '\x7d']

theorem stops_nil : Stops [] := by
  intro c mem
  cases mem

theorem stops_cons (stop : c ∈ [',', ']', '\x7d']) : Stops (c :: rest) := by
  rintro d ⟨⟩
  exact stop

theorem Stops.ne (stops : Stops (c :: rest)) (other : x ∉ [',', ']', '\x7d']) : c ≠ x := by
  rintro rfl
  exact other (stops c rfl)

theorem Stops.endsDigits (stops : Stops rest) : EndsDigits rest := by
  intro c mem
  have noDigit : [',', ']', '\x7d'].any Char.isDigit = false := rfl
  exact eq_false_of_ne_true (List.any_eq_false.1 noDigit c (stops c mem))

theorem skipSpace_cons (token : isSpace c = false) : skipSpace (c :: cs) = c :: cs := by
  rw [skipSpace, List.dropWhile_cons_of_neg (by simp [token])]

theorem expect?_self (token : isSpace c = false) : expect? c (c :: cs) = some cs := by
  rw [expect?, skipSpace_cons token]
  exact if_pos rfl

theorem expect?_of_ne (token : isSpace x = false) (ne : x ≠ c) :
    expect? c (x :: cs) = none := by
  rw [expect?, skipSpace_cons token]
  exact if_neg ne

/-! ## Strings -/

theorem hexValue?_hexDigit : ∀ n < 16, hexValue? (hexDigit n) = some n := by
  decide

/-- An escaped control character is read back. -/
theorem unicodeEscape?_hexDigits (control : c.toNat < 32) :
    unicodeEscape? ('0' :: '0' :: hexDigit (c.toNat / 16) :: hexDigit (c.toNat % 16) :: cs) =
      some (c, cs) := by
  have unit : ((0 * 16 + 0) * 16 + c.toNat / 16) * 16 + c.toNat % 16 = c.toNat := by omega
  have quad : hexQuad? ('0' :: '0' :: hexDigit (c.toNat / 16) :: hexDigit (c.toNat % 16) :: cs) =
      some (c.toNat, cs) := by
    have zero : hexValue? '0' = some 0 := by decide
    simp only [hexQuad?, zero, hexValue?_hexDigit _ (show c.toNat / 16 < 16 by omega),
      hexValue?_hexDigit _ (show c.toNat % 16 < 16 by omega), Option.bind_eq_bind,
      Option.bind_some, unit]
  have low : ¬(0xD800 ≤ c.toNat ∧ c.toNat < 0xDC00) := by omega
  have high : ¬(0xDC00 ≤ c.toNat ∧ c.toNat < 0xE000) := by omega
  rw [unicodeEscape?, quad]
  simp only [Option.bind_eq_bind, Option.bind_some, if_neg low, if_neg high, Char.ofNat_toNat]

/-- A character that is written as an escape is read back. -/
theorem stringBody?_escape {mark : Char} {after : List Char}
    (read : escape? (mark :: after) = some (c, cs)) (fuel : Nat) :
    stringBody? (fuel + 1) ('\\' :: mark :: after) =
      (stringBody? fuel cs).map fun (body, rest) ↦ (c :: body, rest) := by
  rw [stringBody?, if_neg (by decide), if_pos rfl, read, Option.bind_eq_bind, Option.bind_some]
  cases body : stringBody? fuel cs <;> simp [body]

/-- A character in a string is read back from what it is written as. -/
theorem stringBody?_escapeChar (fuel : Nat) (c : Char) (cs : List Char) :
    stringBody? (fuel + 1) (escapeChar c ++ cs) =
      (stringBody? fuel cs).map fun (body, rest) ↦ (c :: body, rest) := by
  unfold escapeChar
  split
  · exact stringBody?_escape rfl fuel
  · exact stringBody?_escape rfl fuel
  · exact stringBody?_escape rfl fuel
  · exact stringBody?_escape rfl fuel
  · exact stringBody?_escape rfl fuel
  · rename_i quote slash _ _ _
    have named {n : Nat} (value : c.toNat = n) : Char.ofNat n = c := by
      rw [← value, Char.ofNat_toNat]
    split
    · rename_i backspace
      apply stringBody?_escape
      rw [← named backspace]
      rfl
    · split
      · rename_i formFeed
        apply stringBody?_escape
        rw [← named formFeed]
        rfl
      · split
        · rename_i control
          apply stringBody?_escape
          exact unicodeEscape?_hexDigits control
        · rename_i printable
          rw [List.singleton_append, stringBody?, if_neg quote, if_neg slash, if_neg printable]
          cases stringBody? fuel cs <;> rfl

theorem length_escapeChar_pos (c : Char) : 0 < (escapeChar c).length := by
  unfold escapeChar
  split
  iterate 5 exact Nat.zero_lt_succ _
  split
  · exact Nat.zero_lt_succ _
  · split
    · exact Nat.zero_lt_succ _
    · split <;> exact Nat.zero_lt_succ _

theorem length_le_escaped (s : List Char) : s.length ≤ (s.flatMap escapeChar).length := by
  induction s with
  | nil => exact Nat.le_refl _
  | cons c s ih =>
    have := length_escapeChar_pos c
    rw [List.flatMap_cons, List.length_append, List.length_cons]
    omega

/-- A string is read back after its opening quote. -/
theorem stringBody?_quoted (s : List Char) {fuel : Nat} (enough : s.length < fuel) :
    stringBody? fuel (s.flatMap escapeChar ++ '"' :: rest) = some (s, rest) := by
  induction s generalizing fuel with
  | nil =>
    obtain ⟨fuel, rfl⟩ := Nat.exists_eq_add_of_lt enough
    rfl
  | cons c s ih =>
    rw [List.length_cons] at enough
    obtain ⟨fuel, rfl⟩ := Nat.exists_eq_succ_of_ne_zero (Nat.ne_zero_of_lt enough)
    rw [List.flatMap_cons, List.append_assoc, stringBody?_escapeChar,
      ih (Nat.lt_of_succ_lt_succ enough)]
    rfl

theorem string?_quoted (s : String) {fuel : Nat} (enough : s.toList.length < fuel)
    (rest : List Char) :
    string? fuel (s.toList.flatMap escapeChar ++ '"' :: rest) = some (s, rest) := by
  rw [string?, stringBody?_quoted s.toList enough]
  simp only [Option.bind_eq_bind, Option.bind_some, String.ofList_toList]

theorem length_lt_quoteChars (s : List Char) : s.length + 1 < (quoteChars s).length := by
  have := length_le_escaped s
  rw [quoteChars, List.length_cons, List.length_append, List.length_singleton]
  omega

/-! ## Whole numbers -/

/-- Whether a text can hold a whole number as such. -/
def IsWhole (i : Int) : Prop :=
  isWord i = true ∨ (0 ≤ i ∧ i < limit64)

theorem isWhole_of_lt {n bound : Nat} (small : n < bound) (le : bound ≤ limit64) :
    IsWhole (n : Int) := by
  right
  omega

/-- Where a number stops there is neither a fraction nor an exponent. -/
theorem fraction?_of_stops (stops : Stops rest) : fraction? rest = some ([], rest) := by
  cases rest with
  | nil => rfl
  | cons c rest =>
    rw [fraction?]
    intro point same
    exact stops.ne (by decide) (List.cons.inj same).1

theorem exponent?_of_stops (stops : Stops rest) : exponent? rest = some (none, rest) := by
  cases rest with
  | nil => rfl
  | cons c rest =>
    have plain : [',', ']', '\x7d'].any Decimal.isExponentMark = false := rfl
    rw [exponent?, if_neg (List.any_eq_false.1 plain c (stops c rfl))]

/-- Whole digits without a leading zero are taken as they are. -/
theorem unsignedNumber?_append (negative : Bool) {whole rest : List Char}
    (digits : ∀ c ∈ whole, c.isDigit = true) (nonempty : whole ≠ [])
    (leads : whole.length = 1 ∨ whole.head? ≠ some '0') (ends : EndsDigits rest) :
    unsignedNumber? negative (whole ++ rest) = (do
      let (fraction, rest) ← fraction? rest
      let (exponent, rest) ← exponent? rest
      let value ← number? negative whole fraction exponent
      some (value, rest)) := by
  have taken : (whole ++ rest).takeWhile Binary64.isDigit = whole := by
    rw [funext Binary64.isDigit_eq]
    exact takeWhile_digits digits ends
  have after : (whole ++ rest).dropWhile Binary64.isDigit = rest := by
    rw [funext Binary64.isDigit_eq]
    exact dropWhile_digits digits ends
  have accepted : (whole.isEmpty || (whole.length != 1 && whole.head? == some '0')) = false := by
    rw [Bool.or_eq_false_iff, List.isEmpty_eq_false_iff, Bool.and_eq_false_iff]
    exact ⟨nonempty, leads.imp (fun single ↦ by rw [single]; rfl) beq_eq_false_iff_ne.2⟩
  rw [unsignedNumber?]
  simp only [taken, after, accepted]
  rfl

theorem unsignedNumber?_toDigits (negative : Bool) (n : Nat) (rest : List Char)
    (ends : EndsDigits rest) : unsignedNumber? negative (Nat.toDigits 10 n ++ rest) = (do
      let (fraction, rest) ← fraction? rest
      let (exponent, rest) ← exponent? rest
      let value ← number? negative (Nat.toDigits 10 n) fraction exponent
      some (value, rest)) := by
  refine unsignedNumber?_append negative (isDigit_toDigits n) Nat.toDigits_ne_nil ?_ ends
  obtain rfl | positive := Nat.eq_zero_or_pos n
  · left
    rfl
  · right
    exact head?_toDigits_ne positive

theorem unsignedNumber?_whole (negative : Bool) {n : Nat}
    (whole : IsWhole (if negative then -n else n)) (nonzero : negative = true → n ≠ 0)
    (stops : Stops rest) : unsignedNumber? negative (Nat.toDigits 10 n ++ rest) =
      some (.int (if negative then -n else n), rest) := by
  have isWhole : (negative && n == 0) = false := by
    cases negative with
    | false => rfl
    | true => exact beq_eq_false_iff_ne.2 (nonzero rfl)
  have fits : (isWord (if negative then -n else n) ||
      decide (0 ≤ (if negative then -(n : Int) else n) ∧
        (if negative then -(n : Int) else n) < limit64)) = true := by
    rw [Bool.or_eq_true, decide_eq_true_eq]
    exact whole
  rw [unsignedNumber?_toDigits negative n rest stops.endsDigits, fraction?_of_stops stops]
  simp only [Option.bind_eq_bind, Option.bind_some, exponent?_of_stops stops, number?,
    Binary64.digitsValue_toDigits, isWhole, fits]
  rfl

/-- A text that begins with a digit holds a number without a sign. -/
theorem value?_of_isDigit (digit : c.isDigit = true) (fuel depth : Nat) :
    value? (fuel + 1) depth (c :: cs) = unsignedNumber? false (c :: cs) := by
  have token : isSpace c = false := by
    simp only [isSpace, Bool.or_eq_false_iff, beq_eq_false_iff_ne]
    refine ⟨⟨⟨?_, ?_⟩, ?_⟩, ?_⟩ <;> exact Decimal.ne_of_isDigit digit (by decide)
  have ne {x : Char} (other : x.isDigit = false) : c ≠ x := Decimal.ne_of_isDigit digit other
  rw [value?, skipSpace_cons token]
  split
  iterate 7
    · rename_i same
      exact absurd (List.cons.inj same).1 (ne (by decide))
  · rfl

theorem value?_intChars {i : Int} (whole : IsWhole i) (stops : Stops rest) (fuel depth : Nat) :
    value? (fuel + 1) depth (intChars i ++ rest) = some (.int i, rest) := by
  unfold intChars
  split
  · rename_i below
    have negated : (if true = true then -(i.natAbs : Int) else i.natAbs) = i := by
      rw [if_pos rfl]
      omega
    have read : unsignedNumber? true (Nat.toDigits 10 i.natAbs ++ rest) = some (.int i, rest) := by
      rw [unsignedNumber?_whole true (by rwa [negated]) (fun _ ↦ by omega) stops, negated]
    rw [List.cons_append, value?, skipSpace_cons (by decide)]
    exact read
  · rename_i above
    have kept : (if false = true then -(i.natAbs : Int) else i.natAbs) = i := by
      rw [if_neg (by decide)]
      omega
    have read : unsignedNumber? false (Nat.toDigits 10 i.natAbs ++ rest) =
        some (.int i, rest) := by
      rw [unsignedNumber?_whole false (by rwa [kept]) (fun negative ↦ absurd negative (by decide))
        stops, kept]
    cases digits : Nat.toDigits 10 i.natAbs with
    | nil => exact absurd digits Nat.toDigits_ne_nil
    | cons c cs =>
      have digit : c.isDigit = true := isDigit_toDigits i.natAbs c (digits ▸ List.mem_cons_self)
      rw [digits] at read
      rw [List.cons_append, value?_of_isDigit digit]
      exact read

/-! ## Values -/

/-- Whether the value is read from its compact text, whatever stops it, when as many levels may open. -/
def Reads (depth : Nat) (j : Json) : Prop :=
  ∀ fuel rest, (compactChars j).length ≤ fuel → Stops rest →
    value? fuel depth (compactChars j ++ rest) = some (j, rest)

/-- Whether a number other than a whole one is read from its text. -/
def RealReads (x : Float) : Prop :=
  ∀ fuel depth rest, Stops rest →
    value? (fuel + 1) depth ((Binary64.dataText x).toList ++ rest) = some (.real x, rest)

/-- The values that a text can hold within a number of levels. -/
inductive Fits : (depth : Nat) → Json → Prop
  | null {depth : Nat} : Fits depth .null
  | bool {depth : Nat} {b : Bool} : Fits depth (.bool b)
  | int {depth : Nat} {i : Int} (whole : IsWhole i) : Fits depth (.int i)
  | real {depth : Nat} {x : Float} (read : RealReads x) : Fits depth (.real x)
  | str {depth : Nat} {s : String} : Fits depth (.str s)
  | arr {depth : Nat} {items : List Json} (each : ∀ item ∈ items, Fits depth item) :
      Fits (depth + 1) (.arr items)
  | obj {depth : Nat} {fields : List (String × Json)}
      (each : ∀ field ∈ fields, Fits depth field.2) : Fits (depth + 1) (.obj fields)

theorem unsignedNumber?_of_not_isDigit (other : c.isDigit = false) (negative : Bool) :
    unsignedNumber? negative (c :: cs) = none := by
  simp [unsignedNumber?, other]

/-- No value begins with a closing bracket. -/
theorem expect?_close {fuel depth : Nat} {j : Json}
    (read : value? fuel depth cs = some (j, rest)) :
    expect? ']' cs = none ∧ expect? '\x7d' cs = none := by
  cases fuel with
  | zero =>
    rw [value?] at read
    cases read
  | succ fuel =>
    rw [expect?, expect?]
    cases start : skipSpace cs with
    | nil => exact ⟨rfl, rfl⟩
    | cons c after =>
      rw [value?, start] at read
      constructor
      · apply if_neg
        rintro rfl
        change unsignedNumber? false (']' :: after) = _ at read
        rw [unsignedNumber?_of_not_isDigit (by decide)] at read
        cases read
      · apply if_neg
        rintro rfl
        change unsignedNumber? false ('\x7d' :: after) = _ at read
        rw [unsignedNumber?_of_not_isDigit (by decide)] at read
        cases read

theorem stops_compactItems (items : List Json) : Stops (compactItems items ++ ']' :: rest) := by
  cases items with
  | nil => exact stops_cons (by decide)
  | cons item items => exact stops_cons (by decide)

theorem stops_compactFields (fields : List (String × Json)) :
    Stops (compactFields fields ++ '\x7d' :: rest) := by
  cases fields with
  | nil => exact stops_cons (by decide)
  | cons field fields => exact stops_cons (by decide)

/-- Items are read up to the closing bracket. -/
theorem elements?_compact {depth : Nat} {item : Json} {items : List Json}
    (each : ∀ j ∈ item :: items, Reads depth j) {fuel : Nat}
    (enough : (compactChars item).length + (compactItems items).length < fuel)
    (rest : List Char) :
    elements? fuel depth (compactChars item ++ (compactItems items ++ ']' :: rest)) =
      some (item :: items, rest) := by
  induction items generalizing item fuel with
  | nil =>
    obtain ⟨fuel, rfl⟩ := Nat.exists_eq_succ_of_ne_zero (Nat.ne_zero_of_lt enough)
    have stops : Stops (compactItems [] ++ ']' :: rest) := stops_compactItems []
    have first := each item List.mem_cons_self fuel _ (by omega) stops
    rw [elements?, first]
    rfl
  | cons second items ih =>
    obtain ⟨fuel, rfl⟩ := Nat.exists_eq_succ_of_ne_zero (Nat.ne_zero_of_lt enough)
    have stops : Stops (compactItems (second :: items) ++ ']' :: rest) :=
      stops_compactItems (second :: items)
    have first := each item List.mem_cons_self fuel _ (by omega) stops
    rw [compactItems, List.length_cons, List.length_append] at enough
    have room : (compactChars second).length + (compactItems items).length < fuel := by omega
    have later := ih (fun j mem ↦ each j (List.mem_cons_of_mem _ mem)) room
    rw [elements?, first]
    simp only [Option.bind_eq_bind, Option.bind_some, compactItems, List.cons_append,
      List.append_assoc, expect?_self (show isSpace ',' = false by decide), later]

/-- A field is read up to what stops its value. -/
theorem members?_field {depth fuel : Nat} {name : String} {value : Json} (read : Reads depth value)
    (enough : (quoteChars name.toList).length + (compactChars value).length ≤ fuel)
    (stops : Stops rest) :
    members? (fuel + 1) depth (quoteChars name.toList ++ ':' :: (compactChars value ++ rest)) =
      match expect? ',' rest with
      | some rest => (members? fuel depth rest).map fun (fields, rest) ↦ ((name, value) :: fields, rest)
      | none => (expect? '\x7d' rest).map fun rest ↦ ([(name, value)], rest) := by
  have long := length_lt_quoteChars name.toList
  have short : name.toList.length < fuel := by omega
  have named := string?_quoted name short (':' :: (compactChars value ++ rest))
  have first := read fuel rest (by omega) stops
  rw [members?, quoteChars]
  simp only [List.cons_append, List.append_assoc, List.nil_append,
    expect?_self (show isSpace '"' = false by decide), named,
    expect?_self (show isSpace ':' = false by decide), first, Option.bind_eq_bind,
    Option.bind_some]
  cases expect? ',' rest with
  | some after =>
    dsimp only
    cases members? fuel depth after <;> rfl
  | none =>
    dsimp only
    cases expect? '\x7d' rest <;> rfl

/-- Fields are read up to the closing brace. -/
theorem members?_compact {depth : Nat} {name : String} {value : Json}
    {fields : List (String × Json)}
    (each : ∀ field ∈ (name, value) :: fields, Reads depth field.2) {fuel : Nat}
    (enough : (quoteChars name.toList).length + (compactChars value).length +
      (compactFields fields).length < fuel) (rest : List Char) :
    members? fuel depth (quoteChars name.toList ++ ':' :: (compactChars value ++
        (compactFields fields ++ '\x7d' :: rest))) = some ((name, value) :: fields, rest) := by
  induction fields generalizing name value fuel with
  | nil =>
    obtain ⟨fuel, rfl⟩ := Nat.exists_eq_succ_of_ne_zero (Nat.ne_zero_of_lt enough)
    have read : Reads depth value := each (name, value) List.mem_cons_self
    rw [members?_field read (by omega) (stops_compactFields [])]
    rfl
  | cons second fields ih =>
    obtain ⟨fuel, rfl⟩ := Nat.exists_eq_succ_of_ne_zero (Nat.ne_zero_of_lt enough)
    obtain ⟨secondName, secondValue⟩ := second
    have read : Reads depth value := each (name, value) List.mem_cons_self
    rw [members?_field read (by omega)
      (stops_compactFields ((secondName, secondValue) :: fields))]
    simp only [compactFields, List.length_cons, List.length_append] at enough
    have room : (quoteChars secondName.toList).length + (compactChars secondValue).length +
        (compactFields fields).length < fuel := by omega
    have later := ih (fun field mem ↦ each field (List.mem_cons_of_mem _ mem)) room
    simp only [compactFields, List.cons_append, List.append_assoc,
      expect?_self (show isSpace ',' = false by decide), later, Option.map_some]

theorem length_compactChars_pos {depth : Nat} {j : Json} (fits : Fits depth j) :
    0 < (compactChars j).length := by
  have nonempty {x : Float} (read : RealReads x) : (Binary64.dataText x).toList ≠ [] := by
    intro empty
    have nothing := read 0 0 [] stops_nil
    rw [empty] at nothing
    cases nothing
  cases fits with
  | null => exact Nat.zero_lt_succ _
  | @bool depth b => cases b <;> exact Nat.zero_lt_succ _
  | @int depth i whole =>
    rw [compactChars, intChars]
    split
    · exact Nat.zero_lt_succ _
    · exact Nat.length_toDigits_pos
  | real read => exact List.length_pos_iff.2 (nonempty read)
  | str => exact Nat.zero_lt_succ _
  | @arr depth items each => cases items <;> exact Nat.zero_lt_succ _
  | @obj depth fields each => cases fields <;> exact Nat.zero_lt_succ _

theorem value?_arr {fuel depth : Nat} {item : Json} {items : List Json}
    (each : ∀ j ∈ item :: items, Reads depth j)
    (enough : (compactChars (.arr (item :: items))).length ≤ fuel + 1) (rest : List Char) :
    value? (fuel + 1) (depth + 1) (compactChars (.arr (item :: items)) ++ rest) =
      some (.arr (item :: items), rest) := by
  simp only [compactChars, List.length_cons, List.length_append, List.length_nil] at enough
  have room : (compactChars item).length + (compactItems items).length < fuel := by omega
  have read := elements?_compact each room rest
  have first := each item List.mem_cons_self fuel (compactItems items ++ ']' :: rest) (by omega)
    (stops_compactItems items)
  have opened := (expect?_close first).1
  simp only [compactChars, List.cons_append, List.append_assoc, List.nil_append]
  rw [value?, skipSpace_cons (by decide)]
  simp only [Nat.add_one_ne_zero, if_false, opened, Nat.add_sub_cancel, read, Option.map_some]

theorem value?_obj {fuel depth : Nat} {name : String} {value : Json}
    {fields : List (String × Json)}
    (each : ∀ field ∈ (name, value) :: fields, Reads depth field.2)
    (enough : (compactChars (.obj ((name, value) :: fields))).length ≤ fuel + 1)
    (rest : List Char) :
    value? (fuel + 1) (depth + 1) (compactChars (.obj ((name, value) :: fields)) ++ rest) =
      some (.obj ((name, value) :: fields), rest) := by
  simp only [compactChars, List.length_cons, List.length_append, List.length_nil] at enough
  have room : (quoteChars name.toList).length + (compactChars value).length +
      (compactFields fields).length < fuel := by omega
  have read := members?_compact each room rest
  have opened (cs : List Char) : expect? '\x7d' (quoteChars name.toList ++ cs) = none := by
    rw [quoteChars, List.cons_append]
    exact expect?_of_ne (by decide) (by decide)
  simp only [compactChars, List.cons_append, List.append_assoc, List.nil_append]
  rw [value?, skipSpace_cons (by decide)]
  simp only [Nat.add_one_ne_zero, if_false, opened, Nat.add_sub_cancel, read, Option.map_some]

/-- A value is read by some step. -/
theorem reads_of_step {depth : Nat} {j : Json} (fits : Fits depth j)
    (step : ∀ fuel rest, (compactChars j).length ≤ fuel + 1 → Stops rest →
      value? (fuel + 1) depth (compactChars j ++ rest) = some (j, rest)) : Reads depth j := by
  intro fuel rest enough
  have positive : fuel ≠ 0 :=
    Nat.ne_of_gt (Nat.lt_of_lt_of_le (length_compactChars_pos fits) enough)
  obtain ⟨fuel, rfl⟩ := Nat.exists_eq_succ_of_ne_zero positive
  exact step fuel rest enough

/-- A value that a text can hold is read from its compact text. -/
theorem Fits.reads {depth : Nat} {j : Json} (fits : Fits depth j) : Reads depth j := by
  induction fits with
  | null => exact reads_of_step .null fun fuel rest _ _ ↦ rfl
  | @bool depth b =>
    apply reads_of_step .bool
    intro fuel rest enough stops
    cases b <;> rfl
  | int whole =>
    apply reads_of_step (.int whole)
    intro fuel rest enough stops
    exact value?_intChars whole stops fuel _
  | real read =>
    apply reads_of_step (.real read)
    intro fuel rest enough stops
    exact read fuel _ rest stops
  | @str depth s =>
    apply reads_of_step .str
    intro fuel rest enough stops
    have long := length_lt_quoteChars s.toList
    change (quoteChars s.toList).length ≤ fuel + 1 at enough
    have read := string?_quoted s (show s.toList.length < fuel by omega) rest
    rw [compactChars, quoteChars, List.cons_append, value?, skipSpace_cons (by decide)]
    simp only [List.append_assoc, List.cons_append, List.nil_append, read, Option.map_some]
  | @arr depth items each ih =>
    apply reads_of_step (.arr each)
    intro fuel rest enough stops
    cases items with
    | nil => rfl
    | cons item items => exact value?_arr ih enough rest
  | @obj depth fields each ih =>
    apply reads_of_step (.obj each)
    intro fuel rest enough stops
    cases fields with
    | nil => rfl
    | cons field fields => exact value?_obj ih enough rest

/-- The compact text of a value that nests fewer levels than a text may open is read as the value. -/
theorem parse?_compact {j : Json} (fits : Fits maxDepth j) : parse? j.compact = some j := by
  have read := fits.reads (2 * (compactChars j).length + 2) [] (by omega) stops_nil
  rw [List.append_nil] at read
  rw [parse?, compact, String.toList_ofList, parseChars?, read]
  rfl

end TradingDesk.Json
