import TradingDesk.Execution.Book

/-!
# The Book as a Whole

A book in which no two positions are of one user in one symbol grows at its end when a new position
comes in, and keeps its order when a position in it changes or leaves.  Filing its positions one
after another into an empty book therefore gives the same book, and so does filing them into the
book itself.
-/

namespace TradingDesk.Execution.Book

variable {b : Book} {p q r : Position} {user symbol : String}

/-- Whether no two positions are of one user in one symbol. -/
def IsDistinct (b : Book) : Prop :=
  b.Pairwise fun p q ↦ ¬(p.user = q.user ∧ p.symbol = q.symbol)

theorem not_isAt_of_find?_eq_none (absent : b.find? user symbol = none) (mem : p ∈ b) :
    isAt user symbol p = false := by
  simpa using List.find?_eq_none.1 absent p mem

theorem find?_eq_none_iff :
    b.find? user symbol = none ↔ ∀ p ∈ b, ¬(p.user = user ∧ p.symbol = symbol) := by
  simp only [find?, List.find?_eq_none, isAt_iff]

/-- In a book of distinct positions, the position of a user in a symbol is the only one. -/
theorem IsDistinct.eq_of_find?_eq_some (distinct : b.IsDistinct)
    (held : b.find? user symbol = some p) (mem : q ∈ b) (same : isAt user symbol q = true) :
    q = p := by
  induction b with
  | nil => cases mem
  | cons r b ih =>
    obtain ⟨away, distinct⟩ := List.pairwise_cons.1 distinct
    by_cases first : isAt user symbol r = true
    · have found : r = p := by simpa [find?, List.find?_cons, first] using held
      obtain rfl | later := List.mem_cons.1 mem
      · exact found
      · obtain ⟨ru, rs⟩ := isAt_iff.1 first
        obtain ⟨qu, qs⟩ := isAt_iff.1 same
        exact absurd ⟨ru.trans qu.symm, rs.trans qs.symm⟩ (away q later)
    · have held : find? b user symbol = some p := by
        simpa [find?, List.find?_cons, first] using held
      obtain rfl | later := List.mem_cons.1 mem
      · exact absurd same first
      · exact ih distinct held later

theorem IsDistinct.count_isAt_le (distinct : b.IsDistinct) (user symbol : String) :
    b.countP (isAt user symbol) ≤ 1 := by
  induction b with
  | nil => exact Nat.zero_le 1
  | cons p b ih =>
    obtain ⟨away, distinct⟩ := List.pairwise_cons.1 distinct
    by_cases first : isAt user symbol p = true
    · have rest : b.countP (isAt user symbol) = 0 := by
        rw [List.countP_eq_zero]
        intro q mem same
        obtain ⟨pu, ps⟩ := isAt_iff.1 first
        obtain ⟨qu, qs⟩ := isAt_iff.1 same
        exact away q mem ⟨pu.trans qu.symm, ps.trans qs.symm⟩
      have one : (p :: b).countP (isAt user symbol) = 1 := by
        rw [List.countP_cons_of_pos first, rest]
      exact Nat.le_of_eq one
    · rw [List.countP_cons_of_neg first]
      exact ih distinct

/-! ## Filing a position -/

theorem insert_of_absent (absent : b.find? p.user p.symbol = none) : b.insert p = b ++ [p] := by
  induction b with
  | nil => rfl
  | cons q b ih =>
    have other : isAt p.user p.symbol q = false := not_isAt_of_find?_eq_none absent (by simp)
    have rest : find? b p.user p.symbol = none := by
      simpa [find?, other] using absent
    simp [insert, other, ih rest]

/-- Replacing the position of a user in a symbol keeps every place what it was. -/
theorem key_replace (p r : Position) :
    (if isAt p.user p.symbol r then p else r).user = r.user ∧
      (if isAt p.user p.symbol r then p else r).symbol = r.symbol := by
  split
  · rename_i same
    obtain ⟨user, symbol⟩ := isAt_iff.1 same
    exact ⟨user.symm, symbol.symm⟩
  · exact ⟨rfl, rfl⟩

theorem insert_of_held (distinct : b.IsDistinct) (held : b.find? p.user p.symbol = some q) :
    b.insert p = b.map fun r ↦ if isAt p.user p.symbol r then p else r := by
  induction b with
  | nil => cases held
  | cons r b ih =>
    obtain ⟨away, distinct⟩ := List.pairwise_cons.1 distinct
    by_cases first : isAt p.user p.symbol r = true
    · obtain ⟨user, symbol⟩ := isAt_iff.1 first
      have rest : b.map (fun r ↦ if isAt p.user p.symbol r then p else r) = b := by
        refine (List.map_congr_left fun s mem ↦ if_neg fun same ↦ ?_).trans b.map_id'
        obtain ⟨su, ss⟩ := isAt_iff.1 same
        exact away s mem ⟨user.trans su.symm, symbol.trans ss.symm⟩
      simp [insert, first, rest]
    · have held : find? b p.user p.symbol = some q := by
        simpa [find?, List.find?_cons, first] using held
      simp [insert, first, ih distinct held]

theorem IsDistinct.append_of_absent (distinct : b.IsDistinct)
    (absent : b.find? p.user p.symbol = none) : (b ++ [p]).IsDistinct := by
  refine List.pairwise_append.2 ⟨distinct, List.pairwise_singleton _ _, ?_⟩
  intro q mem r last
  rw [List.mem_singleton] at last
  subst last
  exact find?_eq_none_iff.1 absent q mem

theorem IsDistinct.insert (distinct : b.IsDistinct) (p : Position) : (b.insert p).IsDistinct := by
  cases held : b.find? p.user p.symbol with
  | none =>
    rw [insert_of_absent held]
    exact distinct.append_of_absent held
  | some q =>
    rw [insert_of_held distinct held]
    refine List.pairwise_map.2 (distinct.imp ?_)
    intro r s apart same
    obtain ⟨ru, rs⟩ := key_replace p r
    obtain ⟨su, ss⟩ := key_replace p s
    rw [ru, rs, su, ss] at same
    exact apart same

theorem IsDistinct.erase (distinct : b.IsDistinct) (user symbol : String) :
    (b.erase user symbol).IsDistinct :=
  List.Pairwise.filter _ distinct

/-! ## Filing a whole book -/

theorem foldl_insert {a : Book} (distinct : IsDistinct (a ++ b)) :
    b.foldl Book.insert a = a ++ b := by
  induction b generalizing a with
  | nil => simp
  | cons p b ih =>
    have absent : a.find? p.user p.symbol = none :=
      find?_eq_none_iff.2 fun q mem ↦ (List.pairwise_append.1 distinct).2.2 q mem p (by simp)
    rw [List.foldl_cons, insert_of_absent absent]
    rw [← List.singleton_append, ← List.append_assoc] at distinct
    rw [ih distinct, List.append_assoc, List.singleton_append]

/-- A book comes from the positions that it held and those that were filed. -/
theorem mem_of_mem_insert (mem : q ∈ b.insert p) : q = p ∨ q ∈ b := by
  induction b with
  | nil => exact .inl (List.mem_singleton.1 mem)
  | cons r b ih =>
    unfold insert at mem
    split at mem
    · exact (List.mem_cons.1 mem).imp id (List.mem_cons_of_mem r)
    · rcases List.mem_cons.1 mem with rfl | later
      · exact .inr List.mem_cons_self
      · exact (ih later).imp id (List.mem_cons_of_mem r)

theorem mem_of_mem_foldl_insert {a : Book} (mem : q ∈ b.foldl Book.insert a) :
    q ∈ a ∨ q ∈ b := by
  induction b generalizing a with
  | nil => exact .inl mem
  | cons p b ih =>
    rcases ih mem with early | late
    · rcases mem_of_mem_insert early with rfl | early
      · exact .inr List.mem_cons_self
      · exact .inl early
    · exact .inr (List.mem_cons_of_mem p late)

theorem IsDistinct.foldl_insert {a : Book} (distinct : a.IsDistinct) (b : Book) :
    IsDistinct (b.foldl Book.insert a) := by
  induction b generalizing a with
  | nil => exact distinct
  | cons p b ih => exact ih (distinct.insert p)

/-- A position of a book of distinct positions is found in its place. -/
theorem IsDistinct.find?_of_mem (distinct : b.IsDistinct) (mem : p ∈ b) :
    b.find? p.user p.symbol = some p := by
  cases held : b.find? p.user p.symbol with
  | none => exact absurd ⟨rfl, rfl⟩ (find?_eq_none_iff.1 held p mem)
  | some q => rw [distinct.eq_of_find?_eq_some held mem (isAt_self p)]

/-- Filing a position that is there already changes nothing. -/
theorem insert_of_mem (distinct : b.IsDistinct) (mem : p ∈ b) : b.insert p = b := by
  have held := distinct.find?_of_mem mem
  rw [insert_of_held distinct held]
  refine (List.map_congr_left fun r other ↦ ?_).trans b.map_id'
  split
  · rename_i same
    exact (distinct.eq_of_find?_eq_some held other same).symm
  · rfl

theorem foldl_insert_of_subset {a : Book} (distinct : a.IsDistinct) (within : ∀ p ∈ b, p ∈ a) :
    b.foldl Book.insert a = a := by
  induction b with
  | nil => rfl
  | cons p b ih =>
    rw [List.foldl_cons, insert_of_mem distinct (within p List.mem_cons_self)]
    exact ih fun q mem ↦ within q (List.mem_cons_of_mem p mem)

end TradingDesk.Execution.Book
