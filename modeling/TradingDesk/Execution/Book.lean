import TradingDesk.Position

/-!
# Position Book

The book holds the open positions, at most one of a user in a symbol.  Filing a position replaces
the one of its user and symbol, and the other positions stay as they are.
-/

namespace TradingDesk.Execution

/-- The open positions. -/
abbrev Book := List Position

namespace Book

/-- Whether a position is the one of a user in a symbol. -/
def isAt (user symbol : String) (p : Position) : Bool :=
  p.user == user && p.symbol == symbol

/-- The position of a user in a symbol. -/
def find? (b : Book) (user symbol : String) : Option Position :=
  List.find? (isAt user symbol) b

/-- The book without the position of a user in a symbol. -/
def erase (b : Book) (user symbol : String) : Book :=
  b.filter fun p ↦ !isAt user symbol p

/-- The book with a position in its place. -/
def insert (b : Book) (p : Position) : Book :=
  match b with
  | [] => [p]
  | q :: rest => if isAt p.user p.symbol q then p :: rest else q :: insert rest p

/-- The positions of a user. -/
def ofUser (b : Book) (user : String) : List Position :=
  b.filter fun p ↦ p.user == user

/-- The number of positions of a user. -/
def count (b : Book) (user : String) : Nat :=
  (b.ofUser user).length

/-! ## Lookup after a change -/

@[simp]
theorem isAt_self (p : Position) : isAt p.user p.symbol p = true := by
  simp [isAt]

theorem isAt_iff {user symbol : String} {p : Position} :
    isAt user symbol p = true ↔ p.user = user ∧ p.symbol = symbol := by
  simp [isAt]

theorem of_find?_eq_some {b : Book} {user symbol : String} {p : Position}
    (h : b.find? user symbol = some p) : p.user = user ∧ p.symbol = symbol :=
  isAt_iff.1 (List.find?_some h)

@[simp]
theorem find?_insert_self (b : Book) (p : Position) :
    (b.insert p).find? p.user p.symbol = some p := by
  induction b with
  | nil => simp [insert, find?]
  | cons q b ih =>
    unfold insert
    split
    · simp [find?]
    · rename_i h
      simpa [find?, List.find?_cons, h] using ih

theorem find?_insert_of_ne {b : Book} {p : Position} {user symbol : String}
    (h : ¬(p.user = user ∧ p.symbol = symbol)) :
    (b.insert p).find? user symbol = b.find? user symbol := by
  have away : isAt user symbol p = false := Bool.eq_false_iff.2 (mt isAt_iff.1 h)
  induction b with
  | nil => simp [insert, find?, away]
  | cons q b ih =>
    unfold insert
    split
    · rename_i same
      have other : isAt user symbol q = false := by
        have := isAt_iff.1 same
        simpa [isAt, this.1, this.2] using away
      simp [find?, away, other]
    · simp only [find?, List.find?_cons]
      split
      · rfl
      · exact ih

@[simp]
theorem find?_erase_self (b : Book) (user symbol : String) :
    (b.erase user symbol).find? user symbol = none := by
  simp [find?, erase]

theorem find?_erase_of_ne {b : Book} {user symbol user' symbol' : String}
    (h : ¬(user = user' ∧ symbol = symbol')) :
    (b.erase user symbol).find? user' symbol' = b.find? user' symbol' := by
  unfold find? erase
  rw [List.find?_filter]
  congr 1
  funext p
  by_cases at' : isAt user' symbol' p = true
  · have same := isAt_iff.1 at'
    have away : isAt user symbol p = false := by
      rw [Bool.eq_false_iff, Ne, isAt_iff, same.1, same.2]
      exact fun e ↦ h ⟨e.1.symm, e.2.symm⟩
    simp [at', away]
  · simp [at']

end Book

end TradingDesk.Execution
