import TradingDesk.Proofs.Binary64.Shortest
import TradingDesk.Proofs.Json.Text

/-!
# Real Numbers Read Back

The text of a finite number is a sign and a numeral: whole digits, digits after a point and an
exponent, of which a point or an exponent is always there.  Its digits do not begin with a zero that
could be left out, and they stand for what the shortest digits of the number stand for, so that the
text is read as the number.

A number that is not finite is written as null, and null is what is read back.
-/

namespace TradingDesk.Json

open Binary64

variable {m n : ℕ} {e : ℤ} {x : Float} {d : Digits} {rest : List Char}

/-! ## Numerals -/

/-- Whole digits, digits after a point and an exponent. -/
structure Numeral where
  whole : List Char
  fraction : List Char
  exponent : Option ℤ

namespace Numeral

/-- The characters of digits after a point. -/
def fractionChars (fraction : List Char) : List Char :=
  if fraction.isEmpty then [] else '.' :: fraction

/-- The characters of an exponent. -/
def exponentChars : Option ℤ → List Char
  | none => []
  | some i => 'e' :: intChars i

/-- The characters of a numeral. -/
def chars (l : Numeral) : List Char :=
  l.whole ++ (fractionChars l.fraction ++ exponentChars l.exponent)

/-- The number that the digits of a numeral stand for. -/
def toDigits (l : Numeral) : Digits :=
  ⟨Nat.ofDigitChars 10 (l.whole ++ l.fraction) 0, l.exponent.getD 0 - l.fraction.length⟩

/-- Whether a numeral is one that a text can hold and that no whole number is written as. -/
structure IsProper (l : Numeral) : Prop where
  digits : ∀ c ∈ l.whole ++ l.fraction, c.isDigit = true
  nonempty : l.whole ≠ []
  leads : l.whole.length = 1 ∨ l.whole.head? ≠ some '0'
  broken : l.fraction ≠ [] ∨ l.exponent.isSome

end Numeral

theorem toList_toString (i : ℤ) : (toString i).toList = intChars i := by
  rw [Int.toString_eq_repr, Int.repr_eq_if, intChars]
  by_cases below : i < 0
  · have opposite : (-i).toNat = i.natAbs := by omega
    rw [if_neg (by omega), if_pos below, String.toList_append, Nat.repr_eq_ofList_toDigits,
      String.toList_ofList, opposite, String.toList_ofList]
    rfl
  · have same : i.toNat = i.natAbs := by omega
    rw [if_pos (by omega), if_neg below, Nat.repr_eq_ofList_toDigits, String.toList_ofList, same]

/-! ## Layouts -/

/-- The first digit of a number with further digits is not zero. -/
theorem head?_take_ne {k : ℕ} (positive : 0 < n) (some : 0 < k) :
    ((Nat.toDigits 10 n).take k).head? ≠ Option.some '0' := by
  rw [List.head?_take, if_neg some.ne']
  exact head?_toDigits_ne positive

/-- Digits without a fraction get the fraction zero. -/
theorem numeral_of_nonneg (positive : 0 < d.digits) (above : 0 ≤ d.exponent) :
    ∃ l : Numeral, l.IsProper ∧ l.toDigits.value = d.value ∧
      l.chars = d.positional.1 ++ ['.', '0'] ∧ d.positional.2 = [] := by
  have positional : d.positional =
      (Nat.toDigits 10 d.digits ++ List.replicate d.exponent.toNat '0', []) := if_pos above
  rw [positional]
  refine ⟨⟨Nat.toDigits 10 d.digits ++ List.replicate d.exponent.toNat '0', ['0'], none⟩,
    ⟨?_, ?_, Or.inr ?_, Or.inl (List.cons_ne_nil _ _)⟩, ?_, rfl, rfl⟩
  · intro c mem
    rw [List.append_assoc, List.mem_append, List.mem_append] at mem
    obtain digit | zero | last := mem
    · exact isDigit_toDigits _ c digit
    · rw [List.eq_of_mem_replicate zero]
      rfl
    · rw [List.mem_singleton.1 last]
      rfl
  · exact List.append_ne_nil_of_left_ne_nil Nat.toDigits_ne_nil _
  · rw [List.head?_append_of_ne_nil _ Nat.toDigits_ne_nil]
    exact head?_toDigits_ne positive
  · have value : Nat.ofDigitChars 10
        ((Nat.toDigits 10 d.digits ++ List.replicate d.exponent.toNat '0') ++ ['0']) 0 =
          10 * (10 ^ d.exponent.toNat * d.digits) := by
      rw [Nat.ofDigitChars_append, Nat.ofDigitChars_append, Nat.ofDigitChars_ten_toDigits,
        Nat.ofDigitChars_replicate_zero, Nat.ofDigitChars_cons]
      rfl
    have power : (10 : ℚ) ^ d.exponent = 10 ^ d.exponent.toNat := by
      rw [← zpow_natCast, Int.toNat_of_nonneg above]
    rw [Digits.value, Digits.value, Numeral.toDigits, value, power]
    change ((10 * (10 ^ d.exponent.toNat * d.digits) : ℕ) : ℚ) * 10 ^ (0 - 1 : ℤ) = _
    rw [zero_sub, zpow_neg_one]
    push_cast
    ring

/-- The digits of a number after as many zeros as leave one digit before a number of places. -/
def padded (n places : ℕ) : List Char :=
  List.replicate (places + 1 - (Nat.toDigits 10 n).length) '0' ++ Nat.toDigits 10 n

theorem lt_length_padded (n places : ℕ) : places < (padded n places).length := by
  rw [padded, List.length_append, List.length_replicate]
  omega

theorem isDigit_padded (n places : ℕ) : ∀ c ∈ padded n places, c.isDigit = true := by
  intro c mem
  obtain zero | digit := List.mem_append.1 mem
  · rw [List.eq_of_mem_replicate zero]
    rfl
  · exact isDigit_toDigits n c digit

theorem value_padded (n places : ℕ) : Nat.ofDigitChars 10 (padded n places) 0 = n := by
  rw [padded, Nat.ofDigitChars_append, Nat.ofDigitChars_replicate_zero, Nat.mul_zero,
    Nat.ofDigitChars_ten_toDigits]

/-- What stands before the places is one digit or begins with another digit than zero. -/
theorem leads_padded (positive : 0 < n) (places : ℕ) :
    ((padded n places).take ((padded n places).length - places)).length = 1 ∨
      ((padded n places).take ((padded n places).length - places)).head? ≠ some '0' := by
  have length := lt_length_padded n places
  by_cases long : places + 1 ≤ (Nat.toDigits 10 n).length
  · right
    have none : padded n places = Nat.toDigits 10 n := by
      rw [padded, Nat.sub_eq_zero_of_le long, List.replicate_zero, List.nil_append]
    rw [none] at length ⊢
    exact head?_take_ne positive (by omega)
  · left
    have total : (padded n places).length = places + 1 := by
      rw [padded, List.length_append, List.length_replicate]
      omega
    rw [List.length_take, total]
    omega

/-- Digits with a fraction, after as many zeros as it needs. -/
theorem numeral_of_neg (positive : 0 < d.digits) (below : d.exponent < 0) :
    ∃ l : Numeral, l.IsProper ∧ l.toDigits.value = d.value ∧
      l.chars = d.positional.1 ++ '.' :: d.positional.2 ∧ d.positional.2 ≠ [] := by
  generalize places : (-d.exponent).toNat = p
  generalize digits : padded d.digits p = cs
  have length : p < cs.length := digits ▸ lt_length_padded d.digits p
  have positional : d.positional = (cs.take (cs.length - p), cs.drop (cs.length - p)) := by
    unfold Digits.positional
    rw [if_neg (by omega), ← digits]
    simp only [places]
    rfl
  have some : d.positional.2 ≠ [] := by
    rw [positional, ← List.length_pos_iff, List.length_drop]
    omega
  refine ⟨⟨d.positional.1, d.positional.2, none⟩, ⟨?_, ?_, ?_, Or.inl some⟩, ?_, ?_, some⟩
  · rw [positional, List.take_append_drop, ← digits]
    exact isDigit_padded d.digits p
  · rw [positional, ← List.length_pos_iff, List.length_take]
    omega
  · rw [positional, ← digits]
    exact leads_padded positive p
  · have count : (0 : ℤ) - (cs.drop (cs.length - p)).length = d.exponent := by
      rw [List.length_drop]
      omega
    rw [Digits.value, Digits.value, Numeral.toDigits, positional]
    dsimp only
    rw [List.take_append_drop, ← digits, value_padded, digits]
    change _ * _ ^ ((0 : ℤ) - _) = _
    rw [count]
  · rw [Numeral.chars, Numeral.fractionChars, if_neg (by rwa [List.isEmpty_iff])]
    exact congrArg _ (List.append_nil _)

/-- Digits with an exponent. -/
theorem numeral_of_point (positive : 0 < d.digits) :
    ∃ l : Numeral, l.IsProper ∧ l.toDigits.value = d.value ∧
      l.chars = (Nat.toDigits 10 d.digits).take 1 ++
        (Numeral.fractionChars ((Nat.toDigits 10 d.digits).drop 1) ++
          'e' :: intChars ((Nat.toDigits 10 d.digits).length + d.exponent - 1)) := by
  have some : 0 < (Nat.toDigits 10 d.digits).length := Nat.length_toDigits_pos
  refine ⟨⟨(Nat.toDigits 10 d.digits).take 1, (Nat.toDigits 10 d.digits).drop 1,
    Option.some ((Nat.toDigits 10 d.digits).length + d.exponent - 1)⟩,
    ⟨?_, ?_, Or.inr (head?_take_ne positive (by decide)), Or.inr rfl⟩, ?_, rfl⟩
  · rw [List.take_append_drop]
    exact isDigit_toDigits _
  · rw [← List.length_pos_iff, List.length_take]
    omega
  · have count : ((Nat.toDigits 10 d.digits).length : ℤ) + d.exponent - 1 -
        ((Nat.toDigits 10 d.digits).drop 1).length = d.exponent := by
      rw [List.length_drop]
      omega
    rw [Digits.value, Digits.value, Numeral.toDigits]
    dsimp only
    rw [List.take_append_drop, Nat.ofDigitChars_ten_toDigits, Option.getD_some, count]

/-! ## Reading numerals -/

/-- Digits after a point are taken when there are any. -/
theorem fraction?_append {fraction after : List Char}
    (digits : ∀ c ∈ fraction, c.isDigit = true) (ends : EndsDigits after)
    (point : ∀ rest, after ≠ '.' :: rest) :
    fraction? (Numeral.fractionChars fraction ++ after) = some (fraction, after) := by
  cases fraction with
  | nil =>
    change fraction? after = _
    rw [fraction?]
    exact point
  | cons c cs =>
    change fraction? ('.' :: (c :: cs ++ after)) = _
    rw [fraction?, funext Binary64.isDigit_eq, takeWhile_digits digits ends,
      dropWhile_digits digits ends]
    rfl

theorem splitSign_intChars (i : ℤ) (rest : List Char) :
    Decimal.splitSign (intChars i ++ rest) =
      (decide (i < 0), Nat.toDigits 10 i.natAbs ++ rest) := by
  unfold intChars
  split
  · rename_i below
    rw [decide_eq_true below]
    rfl
  · rename_i above
    obtain ⟨c, cs, digits⟩ := List.exists_cons_of_ne_nil (Nat.toDigits_ne_nil (n := i.natAbs))
    have digit : c.isDigit = true := isDigit_toDigits i.natAbs c (digits ▸ List.mem_cons_self)
    rw [decide_eq_false above, digits]
    exact Decimal.splitSign_of_isDigit digit

theorem exponent?_mark (i : ℤ) (ends : EndsDigits rest) :
    exponent? ('e' :: (intChars i ++ rest)) = some (some i, rest) := by
  have digits := isDigit_toDigits i.natAbs
  have value : (if decide (i < 0) = true then -(i.natAbs : ℤ) else i.natAbs) = i := by
    split
    · rename_i below
      have below := of_decide_eq_true below
      omega
    · rename_i above
      have above := of_decide_eq_false (eq_false_of_ne_true above)
      omega
  rw [exponent?, if_pos (by decide), splitSign_intChars]
  simp only [funext Binary64.isDigit_eq, takeWhile_digits digits ends, dropWhile_digits digits ends,
    Binary64.digitsValue_toDigits, value]
  exact if_neg (by simp)

theorem exponent?_append (exponent : Option ℤ) (stops : Stops rest) :
    EndsDigits (Numeral.exponentChars exponent ++ rest) ∧
      (∀ after, Numeral.exponentChars exponent ++ rest ≠ '.' :: after) ∧
      exponent? (Numeral.exponentChars exponent ++ rest) = some (exponent, rest) := by
  cases exponent with
  | none =>
    refine ⟨stops.endsDigits, ?_, exponent?_of_stops stops⟩
    rintro after point
    change rest = '.' :: after at point
    rw [point] at stops
    exact stops.ne (x := '.') (by decide) rfl
  | some i =>
    refine ⟨endsDigits_cons (by decide), ?_, exponent?_mark i stops.endsDigits⟩
    intro after point
    exact absurd (List.cons.inj point).1 (by decide)

/-- A proper numeral is taken as a whole. -/
theorem unsignedNumber?_chars (negative : Bool) {l : Numeral} (proper : l.IsProper)
    (stops : Stops rest) : unsignedNumber? negative (l.chars ++ rest) =
      (number? negative l.whole l.fraction l.exponent).map (·, rest) := by
  obtain ⟨ends, point, read⟩ := exponent?_append l.exponent stops
  have whole (c : Char) (mem : c ∈ l.whole) : c.isDigit = true :=
    proper.digits c (List.mem_append_left _ mem)
  have fraction (c : Char) (mem : c ∈ l.fraction) : c.isDigit = true :=
    proper.digits c (List.mem_append_right _ mem)
  have ends' : EndsDigits (Numeral.fractionChars l.fraction ++
      (Numeral.exponentChars l.exponent ++ rest)) := by
    cases l.fraction with
    | nil => exact ends
    | cons c cs => exact endsDigits_cons (by decide)
  rw [Numeral.chars, List.append_assoc, List.append_assoc,
    unsignedNumber?_append negative whole proper.nonempty proper.leads ends',
    fraction?_append fraction ends point]
  simp only [Option.bind_eq_bind, Option.bind_some, read]
  cases number? negative l.whole l.fraction l.exponent <;> rfl

/-- A proper numeral is read as the number that its digits denote, when that is finite. -/
theorem number?_of_proper {negative : Bool} {l : Numeral} (proper : l.IsProper)
    (read : ofDecimal negative l.toDigits.digits l.toDigits.exponent = x)
    (finite : x.isFinite) : number? negative l.whole l.fraction l.exponent = some (.real x) := by
  have notWhole : (l.fraction.isEmpty && l.exponent.isNone &&
      !(negative && digitsValue l.whole == 0)) = false := by
    obtain some | some := proper.broken
    · rw [List.isEmpty_eq_false_iff.2 some]
      rfl
    · rw [Option.isNone_eq_false_iff.2 some, Bool.and_false, Bool.false_and]
  rw [number?]
  simp only [notWhole, Bool.false_and, Bool.false_eq_true, if_false,
    digitsValue_eq proper.digits]
  exact (congrArg (fun x ↦ if x.isFinite then some (Json.real x) else none) read).trans
    (if_pos finite)

/-! ## The text of a number -/

/-- The characters of the sign of a number. -/
def signChars (x : Float) : List Char :=
  if isNegative x then ['-'] else []

/-- The text of a finite number is a sign and a numeral that denotes the number. -/
structure Denotes (l : Numeral) (x : Float) : Prop where
  proper : l.IsProper
  chars : (dataText x).toList = signChars x ++ l.chars
  value : ofDecimal (isNegative x) l.toDigits.digits l.toDigits.exponent = x

theorem exists_numeral_of_zero (h : x.toModel.unpack = .zero (signOf x)) (finite : x.isFinite) :
    ∃ l, Denotes l x := by
  have text : dataText x = (if isNegative x then "-" else "") ++ "0.0" := by
    rw [dataText, if_pos finite]
    exact if_pos ((beq_zero_iff finite).2 h)
  have digits : ∀ c ∈ ['0'] ++ ['0'], c.isDigit = true := by
    intro c mem
    rw [List.eq_of_mem_replicate (show c ∈ List.replicate 2 '0' from mem)]
    rfl
  refine ⟨⟨['0'], ['0'], none⟩, ⟨digits, by decide, Or.inl rfl, Or.inl (by decide)⟩, ?_, ?_⟩
  · rw [text, signChars]
    split <;> rfl
  · apply eq_of_unpack
    rw [h, signOf]
    change (if isNegative x then -(0.0 : Float) else 0.0).toModel.unpack = _
    split <;> rfl

/-- The layout of the digits of a number: positional when the point is near, and with an exponent
otherwise. -/
theorem toList_dataText (finite : x.isFinite) (nonzero : ¬(x == 0.0) = true)
    (shape : shortest .even x.abs = d) : (dataText x).toList = signChars x ++
      if -5 < ((Nat.toDigits 10 d.digits).length : ℤ) + d.exponent ∧
          ((Nat.toDigits 10 d.digits).length : ℤ) + d.exponent ≤ 16 then
        d.positional.1 ++ '.' :: if d.positional.2.isEmpty then ['0'] else d.positional.2
      else
        (Nat.toDigits 10 d.digits).take 1 ++
          (Numeral.fractionChars ((Nat.toDigits 10 d.digits).drop 1) ++
            'e' :: intChars ((Nat.toDigits 10 d.digits).length + d.exponent - 1)) := by
  have sign : (if isNegative x then "-" else "").toList = signChars x := by
    rw [signChars]
    split <;> rfl
  rw [dataText, if_pos finite]
  simp only [nonzero, shape, Bool.false_eq_true, if_false]
  split
  · simp only [String.toList_append, String.toList_ofList, sign, List.append_assoc]
    congr 2
    split <;> simp
  · simp only [String.toList_append, String.toList_ofList, sign, List.append_assoc,
      toList_toString, Numeral.fractionChars]
    congr 2
    split <;> simp

theorem exists_numeral_of_finite {s : Float.Model.UnpackedFloat.Sign} {pos : 0 < m}
    (h : x.toModel.unpack = .finite s m e pos) (finite : x.isFinite) : ∃ l, Denotes l x := by
  obtain ⟨positive, near⟩ := shortest_near (unpack_abs h) .even
  have nonzero : ¬(x == 0.0) = true := by
    rw [beq_zero_iff finite, h]
    exact Float.Model.UnpackedFloat.noConfusion
  have text := toList_dataText finite nonzero rfl
  generalize shortest .even x.abs = d at positive near text
  have read {l : Numeral} (value : l.toDigits.value = d.value) :
      ofDecimal (isNegative x) l.toDigits.digits l.toDigits.exponent = x := by
    rw [← value] at near
    have some : 0 < l.toDigits.digits := by
      apply Nat.pos_of_ne_zero
      intro none
      have positive := pos_of_near pos near
      rw [Digits.value, none, Nat.cast_zero, zero_mul] at positive
      exact absurd positive (lt_irrefl _)
    rw [ofDecimal_near (unpack_abs h) some near, withSign_abs h]
  split at text
  · by_cases above : 0 ≤ d.exponent
    · obtain ⟨l, proper, value, chars, empty⟩ := numeral_of_nonneg positive above
      rw [empty] at text
      exact ⟨l, proper, chars ▸ text, read value⟩
    · obtain ⟨l, proper, value, chars, some⟩ := numeral_of_neg positive (by omega)
      rw [if_neg (by rwa [List.isEmpty_iff])] at text
      exact ⟨l, proper, chars ▸ text, read value⟩
  · obtain ⟨l, proper, value, chars⟩ := numeral_of_point positive
    exact ⟨l, proper, chars ▸ text, read value⟩

/-- The text of a finite number is read as the number. -/
theorem realReads_of_isFinite (finite : x.isFinite) : RealReads x := by
  have some : ∃ l, Denotes l x := by
    have unpacked := unpack_of_isFinite finite
    split at unpacked
    · exact exists_numeral_of_zero unpacked finite
    · exact exists_numeral_of_finite unpacked finite
  obtain ⟨l, proper, chars, value⟩ := some
  intro fuel depth rest stops
  have number : unsignedNumber? (isNegative x) (l.chars ++ rest) = Option.some (.real x, rest) := by
    rw [unsignedNumber?_chars _ proper stops, number?_of_proper proper value finite]
    rfl
  rw [chars, signChars, List.append_assoc]
  split
  · rename_i negative
    rw [negative] at number
    rw [List.singleton_append, value?, skipSpace_cons (by decide)]
    exact number
  · rename_i positive
    rw [eq_false_of_ne_true positive] at number
    obtain ⟨c, cs, whole⟩ := List.exists_cons_of_ne_nil proper.nonempty
    have digit : c.isDigit = true :=
      proper.digits c (List.mem_append_left _ (whole ▸ List.mem_cons_self))
    rw [Numeral.chars, whole] at number ⊢
    exact (value?_of_isDigit digit fuel depth).trans number

/-! ## Numbers without a text -/

/-- A number as a text holds it: null, unless it is finite. -/
def ofReal (x : Float) : Json :=
  if x.isFinite then .real x else .null

mutual

/-- The value that is left in the text of a value, in which numbers that are not finite are null. -/
def written : Json → Json
  | .real x => ofReal x
  | .arr items => .arr (writtenItems items)
  | .obj fields => .obj (writtenFields fields)
  | j => j

/-- The items that are left in a text. -/
def writtenItems : List Json → List Json
  | [] => []
  | item :: rest => written item :: writtenItems rest

/-- The fields that are left in a text. -/
def writtenFields : List (String × Json) → List (String × Json)
  | [] => []
  | (name, value) :: rest => (name, written value) :: writtenFields rest

end

theorem writtenItems_eq_map (items : List Json) : writtenItems items = items.map written := by
  induction items with
  | nil => rfl
  | cons item items ih => rw [writtenItems, ih, List.map_cons]

theorem writtenFields_eq_map (fields : List (String × Json)) :
    writtenFields fields = fields.map fun field ↦ (field.1, written field.2) := by
  induction fields with
  | nil => rfl
  | cons field fields ih => rw [writtenFields, ih, List.map_cons]

theorem compactChars_ofReal (x : Float) : compactChars (ofReal x) = (dataText x).toList := by
  unfold ofReal dataText
  split
  · rename_i finite
    rw [compactChars, dataText, if_pos finite]
  · rfl

mutual

theorem compactChars_written : ∀ j : Json, compactChars (written j) = compactChars j
  | .null => rfl
  | .bool _ => rfl
  | .int _ => rfl
  | .real x => compactChars_ofReal x
  | .str _ => rfl
  | .arr [] => rfl
  | .arr (item :: items) => by
    rw [written, writtenItems, compactChars, compactChars, compactChars_written item,
      compactItems_written items]
  | .obj [] => rfl
  | .obj ((name, value) :: fields) => by
    rw [written, writtenFields, compactChars, compactChars, compactChars_written value,
      compactFields_written fields]

theorem compactItems_written : ∀ items : List Json,
    compactItems (writtenItems items) = compactItems items
  | [] => rfl
  | item :: items => by
    rw [writtenItems, compactItems, compactItems, compactChars_written item,
      compactItems_written items]

theorem compactFields_written : ∀ fields : List (String × Json),
    compactFields (writtenFields fields) = compactFields fields
  | [] => rfl
  | (name, value) :: fields => by
    rw [writtenFields, compactFields, compactFields, compactChars_written value,
      compactFields_written fields]

end

theorem fits_ofReal (depth : ℕ) (x : Float) : Fits depth (ofReal x) := by
  unfold ofReal
  split
  · rename_i finite
    exact .real (realReads_of_isFinite finite)
  · exact .null

/-- What is left in the text of a value is read back. -/
theorem parse?_compact_written {j : Json} (fits : Fits maxDepth j.written) :
    parse? j.compact = some j.written := by
  rw [compact, ← compactChars_written, ← compact, parse?_compact fits]

end TradingDesk.Json
