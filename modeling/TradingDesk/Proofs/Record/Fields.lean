import TradingDesk.Proofs.Calendar.Text
import TradingDesk.Proofs.Decimal.Text
import TradingDesk.Record.Reader

/-!
# Fields Read Back

A field of an object whose names are distinct is found under its name, and a scalar is read back from
what it is written as.  A structure that was written as such an object is therefore read back field by
field.
-/

namespace TradingDesk.Record

variable {α β : Type} {name : String} {value : Json} {fields : List (String × Json)}
  {read? : Json → Option α} {a : α}

/-! ## Fields -/

theorem filter_name (distinct : (fields.map (·.1)).Nodup) (mem : (name, value) ∈ fields) :
    fields.filter ([name].contains ·.1) = [(name, value)] := by
  induction fields with
  | nil => cases mem
  | cons field fields ih =>
    obtain ⟨fresh, distinct⟩ := List.nodup_cons.1 distinct
    obtain rfl | later := List.mem_cons.1 mem
    · have none : fields.filter ([name].contains ·.1) = [] := by
        apply List.filter_eq_nil_iff.2
        intro other listed same
        have same : other.1 = name := by simpa using same
        exact fresh (List.mem_map.2 ⟨other, listed, same⟩)
      rw [List.filter_cons_of_pos (by simp), none]
    · have other : field.1 ≠ name := by
        rintro rfl
        exact fresh (List.mem_map.2 ⟨_, later, rfl⟩)
      rw [List.filter_cons_of_neg (by simpa using other), ih distinct later]

theorem next?_named (distinct : (fields.map (·.1)).Nodup) (mem : (name, value) ∈ fields) :
    next? [name] (.named fields) = some (some value, .named fields) := by
  rw [next?, filter_name distinct mem]

/-- What is read of a structure after one of its fields. -/
theorem required_bind_eq (distinct : (fields.map (·.1)).Nodup) (mem : (name, value) ∈ fields)
    (read? : Json → Option α) (next : α → Reader β) :
    (required [name] read? >>= next).run (.named fields) =
      (read? value).bind fun a ↦ (next a).run (.named fields) := by
  have first : (required [name] read?).run (.named fields) =
      (read? value).bind fun a ↦ some (a, .named fields) := by
    change (next? [name] (.named fields)).bind _ = _
    rw [next?_named distinct mem, Option.bind_some]
    rfl
  rw [StateT.run_bind, first]
  exact Option.bind_assoc _ _ _

theorem nullable_run (distinct : (fields.map (·.1)).Nodup) (mem : (name, value) ∈ fields)
    {kept : Option α} (read : Typing.optional? read? value = some kept) :
    (nullable [name] read?).run (.named fields) = some (kept, .named fields) := by
  change (next? [name] (.named fields)).bind _ = _
  rw [next?_named distinct mem, Option.bind_some]
  change (Typing.optional? read? value).bind _ = _
  rw [read]
  rfl

/-- Reading goes on after a field that is read. -/
theorem required_bind (distinct : (fields.map (·.1)).Nodup) (mem : (name, value) ∈ fields)
    (read : read? value = some a) (next : α → Reader β) :
    (required [name] read? >>= next).run (.named fields) = (next a).run (.named fields) := by
  rw [required_bind_eq distinct mem, read, Option.bind_some]

theorem nullable_bind (distinct : (fields.map (·.1)).Nodup) (mem : (name, value) ∈ fields)
    {kept : Option α} (read : Typing.optional? read? value = some kept)
    (next : Option α → Reader β) :
    (nullable [name] read? >>= next).run (.named fields) = (next kept).run (.named fields) := by
  rw [StateT.run_bind, nullable_run distinct mem read]
  rfl

/-! ## Maps -/

/-- Of names that are distinct all are kept. -/
theorem foldl_keep_last {entries kept : List (String × α)}
    (distinct : ((kept ++ entries).map (·.1)).Nodup) :
    entries.foldl (fun kept e ↦ kept.filter (·.1 != e.1) ++ [e]) kept = kept ++ entries := by
  induction entries generalizing kept with
  | nil => exact (List.append_nil kept).symm
  | cons e entries ih =>
    have fresh : kept.filter (·.1 != e.1) = kept := by
      apply List.filter_eq_self.2
      intro other mem
      rw [List.map_append, List.nodup_append] at distinct
      have ne := distinct.2.2 other.1 (List.mem_map_of_mem mem) e.1
        (List.mem_map_of_mem List.mem_cons_self)
      exact bne_iff_ne.2 ne
    have moved : kept ++ e :: entries = kept ++ [e] ++ entries := by
      rw [List.append_assoc, List.singleton_append]
    rw [List.foldl_cons, fresh, moved, ih (moved ▸ distinct)]

/-- A map with distinct names is read entry by entry. -/
theorem mapOf?_map {γ : Type} {entries : List (String × γ)} (distinct : (entries.map (·.1)).Nodup)
    (write : γ → Json) (read? : Json → Option α) (f : γ → α)
    (read : ∀ e ∈ entries, read? (write e.2) = some (f e.2)) :
    mapOf? read? (.obj (entries.map fun e ↦ (e.1, write e.2))) =
      some (entries.map fun e ↦ (e.1, f e.2)) := by
  have values : (entries.map fun e ↦ (e.1, write e.2)).mapM
      (fun field ↦ (read? field.2).map (field.1, ·)) = some (entries.map fun e ↦ (e.1, f e.2)) := by
    clear distinct
    induction entries with
    | nil => rfl
    | cons e entries ih =>
      obtain ⟨first, rest⟩ := List.forall_mem_cons.1 read
      rw [List.map_cons, List.mapM_cons, first, ih rest]
      rfl
  have names : (entries.map fun e ↦ (e.1, f e.2)).map (·.1) = entries.map (·.1) := by
    rw [List.map_map]
    rfl
  change Option.bind _ _ = _
  rw [values]
  rw [← names] at distinct
  exact congrArg some (foldl_keep_last ((List.nil_append _).symm ▸ distinct))

/-- A map with an entry that is not read is not read. -/
theorem mapOf?_eq_none {read? : Json → Option α} (mem : (name, value) ∈ fields)
    (unread : read? value = none) : mapOf? read? (.obj fields) = none := by
  have none : fields.mapM (fun field ↦ (read? field.2).map (field.1, ·)) = none := by
    induction fields with
    | nil => cases mem
    | cons field fields ih =>
      rw [List.mapM_cons]
      obtain rfl | later := List.mem_cons.1 mem
      · rw [unread]
        rfl
      · rw [ih later]
        cases (read? field.2).map (field.1, ·) <;> rfl
  change Option.bind _ _ = _
  rw [none]
  rfl

/-! ## Scalars -/

theorem decimal?_render (d : Decimal) : decimal? (.str d.render) = some d.unsignedZero := by
  rw [decimal?, Decimal.parseAny?, Decimal.parse?_render_unsignedZero]
  rfl

theorem date?_render {d : Date} (inRange : d.IsInRange) : date? (.str d.render) = some d :=
  Date.parse?_render inRange

theorem instant?_render {t : Instant} (clock : t.IsClock) : instant? (.str t.render) = some t :=
  Instant.parse?_render clock

theorem Typing.nat?_nat {n bound : Nat} (small : n < bound) :
    Typing.nat? .strict bound (.nat n) = some n := by
  have fits : decide (n < bound) = true := decide_eq_true small
  simp [Typing.nat?, Json.nat, Option.filter, fits]

theorem Typing.optional?_text (o : Option String) :
    Typing.optional? (Typing.text? .strict) (Json.ofOption Json.str o) = some o := by
  cases o <;> rfl

theorem Typing.optional?_instant {o : Option Instant} (clock : ∀ t, o = some t → t.IsClock) :
    Typing.optional? instant? (Json.ofOption (fun t : Instant ↦ .str t.render) o) = some o := by
  cases o with
  | none => rfl
  | some t =>
    change (Instant.parse? t.render).map some = some (some t)
    rw [Instant.parse?_render (clock t rfl)]
    rfl

end TradingDesk.Record
