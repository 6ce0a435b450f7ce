import TradingDesk.Ledger.Storage
import TradingDesk.Proofs.Decimal.Text

/-!
# Text Columns of Positions

A position that is written as text columns is read back with the same side, amounts and flags, as
long as no amount is a zero with a sign.  The flags are an array of truth values, which is read item
by item.
-/

namespace TradingDesk

/-! ## Arrays of truth values -/

namespace Json

theorem value?_bool (fuel depth : Nat) (b : Bool) (rest : List Char) :
    value? (fuel + 1) depth (compactChars (.bool b) ++ rest) = some (.bool b, rest) := by
  cases b <;> simp [value?, compactChars, skipSpace, isSpace]

theorem elements?_bools (fuel depth : Nat) (first : Bool) (flags : List Bool) (rest : List Char) :
    elements? (fuel + flags.length + 2) depth
        (compactChars (.bool first) ++ (compactItems (flags.map .bool) ++ ']' :: rest)) =
      some ((first :: flags).map .bool, rest) := by
  induction flags generalizing first with
  | nil =>
    rw [List.length_nil, elements?, value?_bool]
    simp [compactItems, expect?, skipSpace, isSpace]
  | cons second flags ih =>
    have later := ih second
    rw [List.length_cons, elements?, value?_bool]
    simp only [List.map_cons, compactItems, List.cons_append, List.append_assoc,
      Option.bind_eq_bind, Option.bind_some]
    have comma (cs : List Char) : expect? ',' (',' :: cs) = some cs := by
      simp [expect?, skipSpace, isSpace]
    rw [comma]
    dsimp only
    rw [show fuel + (flags.length + 1) + 1 = fuel + flags.length + 2 by omega, later]
    rfl

theorem value?_bools (fuel depth : Nat) (first : Bool) (flags : List Bool) (rest : List Char) :
    value? (fuel + flags.length + 3) (depth + 1)
        ('[' :: (compactChars (.bool first) ++ (compactItems (flags.map .bool) ++ ']' :: rest))) =
      some (.arr ((first :: flags).map .bool), rest) := by
  have opens (cs : List Char) : expect? ']' (compactChars (.bool first) ++ cs) = none := by
    cases first <;> simp [expect?, compactChars, skipSpace, isSpace]
  have skip (cs : List Char) : skipSpace ('[' :: cs) = '[' :: cs := by
    simp [skipSpace, isSpace]
  rw [value?, skip]
  simp only [Nat.add_sub_cancel, opens, elements?_bools]
  simp

theorem length_compactItems_bools (flags : List Bool) :
    flags.length ≤ (compactItems (flags.map .bool)).length := by
  induction flags with
  | nil => exact Nat.zero_le _
  | cons flag flags ih =>
    simp only [List.map_cons, compactItems, List.length_cons, List.length_append]
    omega

theorem parseChars?_of_value? {cs : List Char} {j : Json}
    (read : value? (2 * cs.length + 2) maxDepth cs = some (j, [])) : parseChars? cs = some j := by
  rw [parseChars?, read]
  rfl

theorem parse?_bools (flags : List Bool) :
    parse? (ofList .bool flags).compact = some (.arr (flags.map .bool)) := by
  cases flags with
  | nil => rfl
  | cons first flags =>
    rw [parse?, compact, String.toList_ofList, ofList, List.map_cons, compactChars,
      List.append_assoc]
    have long := length_compactItems_bools flags
    have enough : flags.length + 3 ≤ 2 * ('[' :: (compactChars (.bool first) ++
        (compactItems (flags.map .bool) ++ [']']))).length + 2 := by
      simp only [List.length_cons, List.length_append]
      omega
    obtain ⟨fuel, length⟩ := Nat.exists_eq_add_of_le' enough
    refine parseChars?_of_value? ?_
    rw [length]
    exact value?_bools fuel 126 first flags []

end Json

namespace Ledger

theorem readFlags_flagsText (flags : List Bool) : readFlags (flagsText flags) = .ok flags := by
  have read : (flags.map Json.bool).mapM (Record.Typing.flag? .strict) = some flags := by
    induction flags with
    | nil => rfl
    | cons flag flags ih => simp [Record.Typing.flag?, ih]
  simp [readFlags, flagsText, Json.parse?_bools, Record.Typing.list?, read]

theorem readDecimal_render {d : Decimal} (plain : d.IsPlain) : readDecimal d.render = .ok d := by
  rw [readDecimal, Decimal.parse?_render plain]

theorem readSide_name (side : Side) : readSide side.name = .ok side := by
  have read : Side.parse? side.name = some side := by
    cases side <;> decide +kernel
  rw [readSide, read]

end Ledger

/-- Whether no amount of a position is a zero with a sign. -/
structure Position.IsPlain (p : Position) : Prop where
  entryPrice : p.entryPrice.IsPlain
  quantity : p.quantity.IsPlain
  stopLoss : p.stopLoss.IsPlain
  takeProfit : p.takeProfit.IsPlain
  remaining : p.remaining.IsPlain

/-- Text columns give back a position in everything but, possibly, the time of its opening. -/
theorem Ledger.read_ofPosition {p : Position} (plain : p.IsPlain) :
    ∃ openedAt, (PositionContent.raw (RawPosition.ofPosition p)).read =
      .ok { p with openedAt := openedAt } := by
  refine ⟨(Instant.parseStored? p.openedAt.storedText).getD Instant.epoch, ?_⟩
  simp only [PositionContent.read, RawPosition.ofPosition, readFlags_flagsText, readSide_name,
    readDecimal_render plain.entryPrice, readDecimal_render plain.quantity,
    readDecimal_render plain.stopLoss, readDecimal_render plain.takeProfit,
    readDecimal_render plain.remaining]
  rfl

end TradingDesk
