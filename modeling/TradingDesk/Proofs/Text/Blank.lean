import Mathlib.Data.List.TakeWhile
import TradingDesk.Text.Blank
import TradingDesk.Text.Lowercase

/-!
# Blank Texts

A text is blank when it has no character but white space.  Trimming leaves nothing of a blank text
and something of every other one, and lower case never makes a text empty.
-/

namespace TradingDesk.Text

/-- Whether a text has no character but white space. -/
def IsBlank (s : String) : Prop :=
  ∀ c ∈ s.toList, isBlank c

instance (s : String) : Decidable (IsBlank s) :=
  inferInstanceAs (Decidable (∀ c ∈ s.toList, isBlank c))

theorem trimChars_eq_nil_iff {cs : List Char} : trimChars cs = [] ↔ ∀ c ∈ cs, isBlank c := by
  rw [trimChars, List.reverse_eq_nil_iff, List.dropWhile_eq_nil_iff]
  constructor
  · intro blank
    rw [← List.dropWhile_eq_nil_iff]
    by_contra rest
    -- the first character that is left is not blank, and every one that is left is
    have first := List.head_dropWhile_not isBlank rest
    rw [blank _ (List.mem_reverse.2 (List.head_mem rest))] at first
    cases first
  · intro blank c mem
    exact blank c ((List.dropWhile_suffix isBlank).subset (List.mem_reverse.1 mem))

theorem isEmpty_trim_iff {s : String} : (trim s).isEmpty = true ↔ IsBlank s := by
  rw [String.isEmpty_iff, ← String.toList_eq_nil_iff, trim, String.toList_ofList]
  exact trimChars_eq_nil_iff

theorem lowerChar_ne_nil (c : Char) : lowerChar c ≠ [] := by
  unfold lowerChar
  split
  · exact List.cons_ne_nil _ _
  · split
    · exact List.cons_ne_nil _ _
    · split <;> exact List.cons_ne_nil _ _

theorem lowerFrom_eq_nil_iff {before cs : List Char} : lowerFrom before cs = [] ↔ cs = [] := by
  cases cs with
  | nil => simp [lowerFrom]
  | cons c rest =>
    rw [lowerFrom, List.append_eq_nil_iff]
    simp only [List.cons_ne_nil, iff_false, not_and]
    intro none
    split at none
    · split at none <;> cases none
    · exact absurd none (lowerChar_ne_nil c)

theorem isEmpty_lowercase (s : String) : (lowercase s).isEmpty = s.isEmpty := by
  rw [Bool.eq_iff_iff, String.isEmpty_iff, String.isEmpty_iff, ← String.toList_eq_nil_iff,
    ← String.toList_eq_nil_iff, lowercase, String.toList_ofList, lowerFrom_eq_nil_iff]

end TradingDesk.Text
