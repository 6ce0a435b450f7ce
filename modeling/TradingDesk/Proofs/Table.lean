import Mathlib.Algebra.BigOperators.Group.List.Basic
import Mathlib.Algebra.Order.Field.Rat
import Mathlib.Data.List.Nodup
import Mathlib.Tactic.Ring
import TradingDesk.Table

/-!
# Totals and Copies of Tables

A function of names and values has a total over the entries of a table.  Inserting a value replaces
the part of its name in the total, and erasing a name takes the part away, as long as the names are
distinct.

A table of distinct names that is inserted entry by entry into an empty one is copied, and inserting
it once more changes nothing.
-/

namespace TradingDesk

namespace Table

variable {α : Type} {t : Table α} {name other : String} {value : α}

/-- What the entries of a table add up to. -/
def total (t : Table α) (f : String → α → ℚ) : ℚ :=
  (t.map fun entry ↦ f entry.1 entry.2).sum

/-- What the entry of a name adds to the total. -/
def part (t : Table α) (f : String → α → ℚ) (name : String) : ℚ :=
  (t.find? name).elim 0 (f name)

theorem total_cons (entry : String × α) (t : Table α) (f : String → α → ℚ) :
    total (entry :: t) f = f entry.1 entry.2 + total t f := rfl

theorem total_insert (t : Table α) (f : String → α → ℚ) (name : String) (value : α) :
    (t.insert name value).total f = t.total f - t.part f name + f name value := by
  induction t with
  | nil =>
    rw [insert, total_cons, part, find?_nil]
    simp [total]
  | cons entry t ih =>
    unfold insert
    split
    · rename_i here
      rw [total_cons, total_cons, part, find?_cons, if_pos here, ← here]
      simp only [Option.elim_some]
      ring
    · rename_i away
      rw [total_cons, total_cons, ih, part, part, find?_cons, if_neg away]
      ring

theorem mem_of_find? (h : t.find? name = some value) : (name, value) ∈ t := by
  obtain ⟨before, after, rfl, -⟩ := List.lookup_eq_some_iff.1 h
  exact List.mem_append_right before List.mem_cons_self

theorem mem_of_mem_insert {entry : String × α} (h : entry ∈ t.insert name value) :
    entry = (name, value) ∨ entry ∈ t := by
  induction t with
  | nil => exact Or.inl (List.mem_singleton.1 h)
  | cons kept t ih =>
    unfold insert at h
    split at h
    · exact (List.mem_cons.1 h).imp_right (List.mem_cons_of_mem _)
    · rcases List.mem_cons.1 h with rfl | later
      · exact Or.inr List.mem_cons_self
      · exact (ih later).imp_right (List.mem_cons_of_mem _)

theorem mem_names_insert :
    other ∈ (t.insert name value).names ↔ other = name ∨ other ∈ t.names := by
  induction t with
  | nil => simp [insert, names]
  | cons entry t ih =>
    unfold insert
    split
    · rename_i here
      simp [names, here]
    · simp only [names, List.map_cons, List.mem_cons] at ih ⊢
      rw [ih]
      exact or_left_comm

theorem nodup_insert (distinct : t.names.Nodup) : (t.insert name value).names.Nodup := by
  induction t with
  | nil => exact List.nodup_singleton name
  | cons entry t ih =>
    obtain ⟨fresh, rest⟩ := List.nodup_cons.1 distinct
    unfold insert
    split
    · rename_i here
      change (name :: names t).Nodup
      rw [here]
      exact distinct
    · rename_i away
      apply List.nodup_cons.2 ⟨?_, ih rest⟩
      intro mem
      rcases mem_names_insert.1 mem with same | old
      · exact away same.symm
      · exact fresh old

theorem nodup_erase (distinct : t.names.Nodup) : (t.erase name).names.Nodup :=
  distinct.sublist (List.filter_sublist.map _)

theorem find?_eq_none_of_not_mem (absent : name ∉ t.names) : t.find? name = none := by
  induction t with
  | nil => rfl
  | cons entry t ih =>
    have away : name ≠ entry.1 := fun here ↦ absent (here ▸ List.mem_cons_self)
    rw [find?_cons, if_neg away]
    exact ih fun mem ↦ absent (List.mem_cons_of_mem _ mem)

theorem total_erase (f : String → α → ℚ) (distinct : t.names.Nodup) (name : String) :
    (t.erase name).total f = t.total f - t.part f name := by
  induction t with
  | nil => simp [erase, total, part]
  | cons entry t ih =>
    obtain ⟨fresh, rest⟩ := List.nodup_cons.1 distinct
    rw [total_cons, part, find?_cons]
    by_cases here : name = entry.1
    · have removed : erase (entry :: t) name = erase t name := by
        simp [erase, here]
      have absent : part t f name = 0 := by
        rw [part, find?_eq_none_of_not_mem (here ▸ fresh)]
        rfl
      rw [removed, ih rest, absent, if_pos here, here]
      simp only [Option.elim_some]
      ring
    · have kept : erase (entry :: t) name = entry :: erase t name := by
        simp [erase, Ne.symm here]
      rw [kept, total_cons, ih rest, part, if_neg here]
      ring

/-- In a table of distinct names, a name outside of which a function vanishes has the whole
total. -/
theorem total_eq_part {f : String → α → ℚ} (distinct : t.names.Nodup)
    (vanishes : ∀ entry ∈ t, entry.1 ≠ name → f entry.1 entry.2 = 0) :
    t.total f = t.part f name := by
  have none : (t.erase name).total f = 0 := by
    apply List.sum_eq_zero
    intro x mem
    obtain ⟨entry, kept, rfl⟩ := List.mem_map.1 mem
    obtain ⟨listed, away⟩ := List.mem_filter.1 kept
    exact vanishes entry listed (by simpa using away)
  rw [total_erase f distinct] at none
  exact sub_eq_zero.1 none

/-! ## Copies -/

variable {β : Type} {entries : Table α} {target : Table β} {f : α → β}

/-- The table with every value changed. -/
def mapValues (t : Table α) (f : α → β) : Table β :=
  t.map fun entry ↦ (entry.1, f entry.2)

/-- The table after the entries of another one were inserted, with their values changed. -/
def insertAll (target : Table β) (entries : Table α) (f : α → β) : Table β :=
  entries.foldl (fun t entry ↦ t.insert entry.1 (f entry.2)) target

@[simp]
theorem names_mapValues (t : Table α) (f : α → β) : (t.mapValues f).names = t.names := by
  simp [mapValues, names]

theorem find?_mapValues (t : Table α) (f : α → β) (name : String) :
    (t.mapValues f).find? name = (t.find? name).map f := by
  induction t with
  | nil => rfl
  | cons entry t ih =>
    rw [find?_cons, mapValues, List.map_cons, find?_cons]
    split
    · rfl
    · exact ih

theorem find?_of_mem (distinct : t.names.Nodup) (mem : (name, value) ∈ t) :
    t.find? name = some value := by
  induction t with
  | nil => cases mem
  | cons entry t ih =>
    obtain ⟨fresh, distinct⟩ := List.nodup_cons.1 distinct
    rw [find?_cons]
    obtain rfl | later := List.mem_cons.1 mem
    · exact if_pos rfl
    · have away : name ≠ entry.1 := by
        rintro rfl
        exact fresh (List.mem_map.2 ⟨_, later, rfl⟩)
      rw [if_neg away, ih distinct later]

theorem find?_sorted (distinct : t.names.Nodup) (name : String) :
    t.sorted.find? name = t.find? name := by
  have reordered : t.sorted.Perm t := List.mergeSort_perm t _
  cases found : t.find? name with
  | some value =>
    apply find?_of_mem ((reordered.map _).nodup_iff.2 distinct)
    exact reordered.mem_iff.2 (mem_of_find? found)
  | none =>
    apply find?_eq_none_of_not_mem
    intro listed
    obtain ⟨⟨_, value⟩, mem, rfl⟩ := List.mem_map.1 listed
    rw [find?_of_mem distinct (reordered.mem_iff.1 mem)] at found
    cases found

theorem sorted_mapValues (t : Table α) (f : α → β) :
    (t.mapValues f).sorted = t.sorted.mapValues f := by
  apply Eq.symm
  apply List.map_mergeSort
  intro a _ b _
  rfl

theorem names_sorted (t : Table α) :
    t.sorted.names = t.names.mergeSort fun a b ↦ decide (a ≤ b) := by
  apply List.map_mergeSort
  intro a _ b _
  rfl

/-- Names in order stay as they are when they are put in order. -/
theorem mergeSort_mergeSort (names : List String) :
    (names.mergeSort fun a b ↦ decide (a ≤ b)).mergeSort (fun a b ↦ decide (a ≤ b)) =
      names.mergeSort fun a b ↦ decide (a ≤ b) := by
  apply List.mergeSort_of_pairwise
  apply List.pairwise_mergeSort
  · intro a b c ab bc
    exact decide_eq_true (String.le_trans (of_decide_eq_true ab) (of_decide_eq_true bc))
  · intro a b
    simpa using String.le_total a b

/-- The value that was filed last under a name replaces the one before it. -/
theorem insert_insert (t : Table α) (name : String) (first second : α) :
    (t.insert name first).insert name second = t.insert name second := by
  induction t with
  | nil => simp [insert]
  | cons entry t ih =>
    by_cases here : name = entry.1
    · simp [insert, here]
    · simp [insert, here, ih]

theorem insert_of_not_mem (absent : name ∉ t.names) : t.insert name value = t ++ [(name, value)] := by
  induction t with
  | nil => rfl
  | cons entry t ih =>
    have away : name ≠ entry.1 := fun here ↦ absent (here ▸ List.mem_cons_self)
    rw [insert, if_neg away, ih fun mem ↦ absent (List.mem_cons_of_mem _ mem)]
    rfl

/-- Entries of distinct new names are added as they are. -/
theorem insertAll_of_fresh (distinct : (target.names ++ entries.names).Nodup) :
    target.insertAll entries f = target ++ entries.mapValues f := by
  induction entries generalizing target with
  | nil => exact (List.append_nil target).symm
  | cons entry entries ih =>
    have absent : entry.1 ∉ target.names := by
      intro mem
      exact (List.nodup_append.1 distinct).2.2 _ mem _ List.mem_cons_self rfl
    have step : target.insertAll (entry :: entries) f =
        (target.insert entry.1 (f entry.2)).insertAll entries f := rfl
    rw [step, insert_of_not_mem absent, ih, List.append_assoc]
    · rfl
    · simpa [names] using distinct

theorem names_insert_of_mem (mem : name ∈ t.names) : (t.insert name value).names = t.names := by
  induction t with
  | nil => cases mem
  | cons entry t ih =>
    unfold insert
    split
    · rename_i here
      simp [names, here]
    · rename_i away
      obtain here | later := List.mem_cons.1 mem
      · exact absurd here away
      · exact congrArg (entry.1 :: ·) (ih later)

/-- Entries of names that are present leave the names as they are. -/
theorem names_insertAll_of_mem (present : ∀ name ∈ entries.names, name ∈ target.names) :
    (target.insertAll entries f).names = target.names := by
  induction entries generalizing target with
  | nil => rfl
  | cons entry entries ih =>
    have here : (target.insert entry.1 (f entry.2)).names = target.names :=
      names_insert_of_mem (present _ List.mem_cons_self)
    have step : target.insertAll (entry :: entries) f =
        (target.insert entry.1 (f entry.2)).insertAll entries f := rfl
    rw [step, ih, here]
    intro name mem
    rw [here]
    exact present name (List.mem_cons_of_mem _ mem)

end Table

end TradingDesk
