/-!
# Tables

A table keeps values under names.  Inserting under a name that is present replaces its value in
place, and inserting under a new name adds the value at the end, so that the names stay distinct
and keep the order in which they first came.
-/

namespace TradingDesk

/-- Values under names. -/
abbrev Table (α : Type) := List (String × α)

namespace Table

variable {α : Type}

/-- The value under a name. -/
def find? (t : Table α) (name : String) : Option α :=
  List.lookup name t

/-- The table with a value under a name. -/
def insert (t : Table α) (name : String) (value : α) : Table α :=
  match t with
  | [] => [(name, value)]
  | (other, kept) :: rest =>
    if name = other then (name, value) :: rest else (other, kept) :: insert rest name value

/-- The table without a name. -/
def erase (t : Table α) (name : String) : Table α :=
  t.filter fun entry ↦ entry.1 != name

/-- The names in their order. -/
def names (t : Table α) : List String :=
  t.map (·.1)

/-- The entries in the order of their names. -/
def sorted (t : Table α) : Table α :=
  t.mergeSort fun a b ↦ decide (a.1 ≤ b.1)

/-! ## Lookup after a change -/

@[simp]
theorem find?_nil (name : String) : find? ([] : Table α) name = none := rfl

theorem find?_cons (entry : String × α) (t : Table α) (name : String) :
    find? (entry :: t) name = if name = entry.1 then some entry.2 else find? t name := by
  obtain ⟨key, value⟩ := entry
  by_cases h : name = key <;> simp [find?, List.lookup_cons, h, beq_eq_false_iff_ne.2]

@[simp]
theorem find?_insert_self (t : Table α) (name : String) (value : α) :
    (t.insert name value).find? name = some value := by
  induction t with
  | nil => simp [insert, find?_cons]
  | cons entry t ih =>
    unfold insert
    split <;> rename_i h <;> simp [find?_cons, h, ih]

theorem find?_insert_of_ne {t : Table α} {name other : String} (h : other ≠ name) (value : α) :
    (t.insert name value).find? other = t.find? other := by
  induction t with
  | nil => simp [insert, find?_cons, h]
  | cons entry t ih =>
    unfold insert
    split
    · rename_i same
      subst same
      simp [find?_cons, h]
    · simp [find?_cons, ih]

@[simp]
theorem find?_erase_self (t : Table α) (name : String) : (t.erase name).find? name = none := by
  induction t with
  | nil => rfl
  | cons entry t ih =>
    by_cases h : entry.1 = name
    · simpa [erase, List.filter_cons, h] using ih
    · have h' : name ≠ entry.1 := fun e ↦ h e.symm
      simpa [erase, List.filter_cons, h, find?_cons, h'] using ih

theorem find?_erase_of_ne {t : Table α} {name other : String} (h : other ≠ name) :
    (t.erase name).find? other = t.find? other := by
  induction t with
  | nil => rfl
  | cons entry t ih =>
    by_cases same : entry.1 = name
    · simpa [erase, List.filter_cons, same, find?_cons, h] using ih
    · by_cases found : other = entry.1
      · simp [erase, same, find?_cons, found]
      · simpa [erase, List.filter_cons, same, find?_cons, found] using ih

end Table

end TradingDesk
