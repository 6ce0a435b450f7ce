import TradingDesk.Proofs.Allocation.Atomicity

/-!
# The Window of Returns

A target keeps its latest returns.  They are pushed one by one, and a full window loses its oldest
entry to each of them, so what is kept does not depend on how the returns were divided into reports:
it is always the end of the history that the target came with and of all returns reported since.

Operations that neither remove the target nor put another one in its place leave the window alone.
The figures of the target are those of the whole window as soon as there was a report.
-/

namespace TradingDesk.Allocation

namespace Target

variable {α : Type} {history : List Float}

theorem length_lastEntries_le (n : ℕ) (xs : List α) : (lastEntries n xs).length ≤ n := by
  rw [lastEntries, List.length_drop]
  omega

/-- Entries before a window have no part in later windows. -/
theorem lastEntries_append (n : ℕ) (xs ys : List α) :
    lastEntries n (lastEntries n xs ++ ys) = lastEntries n (xs ++ ys) := by
  have dropped : lastEntries n xs ++ ys = (xs ++ ys).drop (xs.length - n) :=
    (List.drop_append_of_le_length (Nat.sub_le _ _)).symm
  have count : xs.length - n + ((xs ++ ys).length - (xs.length - n) - n) =
      (xs ++ ys).length - n := by
    rw [List.length_append]
    omega
  rw [dropped, lastEntries, lastEntries, List.length_drop, List.drop_drop, count]

theorem pushReturn_eq (bounded : history.length ≤ historyLength) (r : Float) :
    pushReturn history r = lastEntries historyLength (history ++ [r]) := by
  rw [pushReturn, lastEntries, List.length_append, List.length_singleton]
  split
  · rename_i full
    rw [full, Nat.add_sub_cancel_left, List.drop_append_of_le_length (by rw [full]; decide)]
  · rename_i room
    have short : history.length + 1 - historyLength = 0 := by omega
    rw [short, List.drop_zero]

theorem foldl_pushReturn_eq (bounded : history.length ≤ historyLength) (rs : List Float) :
    rs.foldl pushReturn history = lastEntries historyLength (history ++ rs) := by
  induction rs generalizing history with
  | nil =>
    have short : history.length - historyLength = 0 := by omega
    rw [List.append_nil, lastEntries, short, List.drop_zero]
    rfl
  | cons r rs ih =>
    rw [List.foldl_cons, pushReturn_eq bounded, ih (length_lastEntries_le _ _),
      lastEntries_append, List.append_assoc, List.singleton_append]

/-- The padded window ends with the window. -/
theorem suffix_paddedReturns {t : Target} (bounded : t.returns.length ≤ historyLength) :
    t.returns <:+ t.paddedReturns := by
  have short : t.returns.length - historyLength = 0 := by omega
  rw [paddedReturns, lastEntries, short, List.drop_zero]
  exact List.suffix_append _ _

end Target

namespace Operation

/-- The returns that an operation reports of a target. -/
def reports (id : String) : Operation → List (List Float)
  | .updatePerformance name returns _ => if name = id then [returns] else []
  | _ => []

/-- Whether an operation removes a target or puts another one in its place. -/
def Replaces (id : String) : Operation → Prop
  | .add t => t.id = id ∧ Allocator.validBounds t.minShare t.maxShare
  | .remove name => name = id
  | _ => False

end Operation

namespace Allocator

open Target

variable {a b c d : Allocator} {t : Target} {op : Operation} {ops : List Operation}
  {made : Option Plan} {reports : List (List Float)} {settings : Settings}

/-- Whether a target holds the window of the history that it was added with and of reports, with the
figures of that window once there was a report. -/
def HasWindow (c : Allocator) (t : Target) (reports : List (List Float)) : Prop :=
  ∃ u ∈ c.targets, u.id = t.id ∧
    u.returns = lastEntries historyLength (t.returns ++ reports.flatten) ∧
    (reports ≠ [] → u.figures = Performance.ofReturns u.returns c.settings.periodsPerYear)

theorem hasWindow_add (h : a.add t = .ok b) : b.HasWindow t [] := by
  obtain ⟨-, rfl⟩ := add_cases h
  refine ⟨_, List.mem_append_right _ List.mem_cons_self, rfl, ?_, absurd rfl⟩
  rw [List.flatten_nil, List.append_nil]
  have empty : ([] : List Float).length ≤ historyLength := Nat.zero_le _
  exact foldl_pushReturn_eq empty t.returns

/-- A change of targets that keeps names, returns and reports. -/
theorem HasWindow.map {f : Target → Target} (h : c.HasWindow t reports)
    (same : ∀ u, (f u).id = u.id ∧ (f u).returns = u.returns ∧ (f u).report = u.report)
    (changed : d.targets = c.targets.map f)
    (periods : d.settings.periodsPerYear = c.settings.periodsPerYear) :
    d.HasWindow t reports := by
  obtain ⟨u, held, named, window, figures⟩ := h
  obtain ⟨id, returns, report⟩ := same u
  refine ⟨f u, ?_, id.trans named, returns.trans window, ?_⟩
  · rw [changed]
    exact List.mem_map_of_mem held
  · intro reported
    rw [Target.figures, report, returns, periods]
    exact figures reported

theorem mem_insertTarget {u v : Target} {targets : List Target} (mem : u ∈ targets)
    (other : u.id ≠ v.id) : u ∈ insertTarget v targets := by
  rcases lt_or_gt_of_ne other with before | after
  · exact List.mem_append_left _ (List.mem_filter.2 ⟨mem, decide_eq_true before⟩)
  · exact List.mem_append_right _ (List.mem_cons_of_mem _
      (List.mem_filter.2 ⟨mem, decide_eq_true after⟩))

/-- Operations that change one target alone, but for its name and its returns. -/
theorem HasWindow.modify {f : Target → Target} {name : String} (h : c.HasWindow t reports)
    (same : ∀ u, (f u).id = u.id ∧ (f u).returns = u.returns ∧ (f u).report = u.report)
    (done : c.modify name f = .ok d) : d.HasWindow t reports := by
  obtain ⟨-, rfl⟩ := modify_cases done
  refine h.map ?_ rfl rfl
  intro u
  split
  · exact same u
  · exact ⟨rfl, rfl, rfl⟩

/-- A report moves the window of its target on. -/
theorem HasWindow.push {returns : List Float} {now : Instant} (h : c.HasWindow t reports)
    (done : c.updatePerformance t.id returns now = .ok d) :
    d.HasWindow t (reports ++ [returns]) := by
  obtain ⟨u, held, named, window, -⟩ := h
  have bounded : u.returns.length ≤ historyLength := by
    rw [window]
    exact length_lastEntries_le _ _
  obtain ⟨-, rfl⟩ := modify_cases done
  refine ⟨_, List.mem_map.2 ⟨u, held, if_pos (beq_iff_eq.2 named)⟩, named, ?_, fun _ ↦ rfl⟩
  calc returns.foldl pushReturn u.returns
    _ = lastEntries historyLength (u.returns ++ returns) := foldl_pushReturn_eq bounded returns
    _ = lastEntries historyLength (t.returns ++ reports.flatten ++ returns) := by
      rw [window, lastEntries_append]
    _ = lastEntries historyLength (t.returns ++ (reports ++ [returns]).flatten) := by
      rw [List.flatten_append, List.flatten_singleton, List.append_assoc]

/-- A report on another target leaves the window alone. -/
theorem HasWindow.push_other {name : String} {returns : List Float} {now : Instant}
    (h : c.HasWindow t reports) (other : name ≠ t.id)
    (done : c.updatePerformance name returns now = .ok d) : d.HasWindow t reports := by
  obtain ⟨u, held, named, window⟩ := h
  obtain ⟨-, rfl⟩ := modify_cases done
  have unnamed : ¬ (u.id == name) := by
    rw [beq_iff_eq, named]
    exact other.symm
  exact ⟨u, List.mem_map.2 ⟨u, held, if_neg unnamed⟩, named, window⟩

theorem HasWindow.unreported (h : d.HasWindow t reports) (none : op.reports t.id = []) :
    d.HasWindow t (reports ++ op.reports t.id) := by
  rw [none, List.append_nil]
  exact h

/-- What an operation that succeeds makes of a window. -/
theorem HasWindow.result? (h : c.HasWindow t reports) (kept : ¬ op.Replaces t.id)
    (done : c.result? op = some (.ok (d, made))) :
    d.HasWindow t (reports ++ op.reports t.id) := by
  cases op with
  | add v =>
    refine HasWindow.unreported ?_ rfl
    obtain ⟨valid, rfl⟩ := add_cases (ok_of_answer done)
    obtain ⟨u, held, named, window⟩ := h
    refine ⟨u, mem_insertTarget held ?_, named, window⟩
    rw [named]
    exact fun same ↦ kept ⟨same.symm, valid⟩
  | remove name =>
    refine HasWindow.unreported ?_ rfl
    cases done
    obtain ⟨u, held, named, window⟩ := h
    refine ⟨u, List.mem_filter.2 ⟨held, ?_⟩, named, window⟩
    rw [bne_iff_ne, named]
    exact fun same ↦ kept same.symm
  | setActive name active =>
    have switched : c.setActive name active = .ok d := ok_of_answer done
    refine HasWindow.unreported (h.modify ?_ switched) rfl
    exact fun u ↦ ⟨rfl, rfl, rfl⟩
  | updatePerformance name returns now =>
    have updated := ok_of_answer done
    rw [Operation.reports]
    split
    · rename_i same
      rw [same] at updated
      exact h.push updated
    · rename_i other
      rw [List.append_nil]
      exact h.push_other other updated
  | makePlan method filter now =>
    refine HasWindow.unreported ?_ rfl
    obtain ⟨plan, -, planned⟩ := makePlan?_of_answer done
    obtain ⟨-, rfl⟩ := makePlan?_cases planned
    refine h.map ?_ rfl rfl
    intro u
    split <;> exact ⟨rfl, rfl, rfl⟩
  | applyPlan plan =>
    refine HasWindow.unreported ?_ rfl
    obtain ⟨-, rfl⟩ := applyPlan_cases (ok_of_answer done)
    refine h.map ?_ rfl rfl
    intro u
    split <;> exact ⟨rfl, rfl, rfl⟩
  | setTotalCapital total =>
    cases done
    exact HasWindow.unreported h rfl

/-- An operation that fails reports nothing of a target that exists. -/
theorem HasWindow.reports_of_error {e : Error} (h : c.HasWindow t reports)
    (failed : c.result? op = some (.error e)) : op.reports t.id = [] := by
  cases op with
  | updatePerformance name returns now =>
    apply if_neg
    rintro rfl
    obtain ⟨u, held, named, -⟩ := h
    obtain ⟨v, known⟩ := Option.isSome_iff_exists.1 (isSome_target? held)
    rw [named] at known
    have updated := Option.some.inj failed
    rw [Allocator.updatePerformance, Allocator.modify, known] at updated
    cases updated
  | _ => rfl

/-- What any operations make of a window, however they end. -/
theorem HasWindow.carryOut? (reached : c.Reachable) (h : c.HasWindow t reports)
    (kept : ∀ op ∈ ops, ¬ op.Replaces t.id) (done : c.carryOut? ops = some d) :
    d.HasWindow t (reports ++ ops.flatMap (·.reports t.id)) := by
  induction ops generalizing c reports with
  | nil =>
    cases done
    rw [List.flatMap_nil, List.append_nil]
    exact h
  | cons op ops ih =>
    obtain ⟨between, stepped, done⟩ := Option.bind_eq_some_iff.1 done
    have next : between.HasWindow t (reports ++ op.reports t.id) := by
      obtain ⟨e, answered, rfl⟩ | ⟨made, answered⟩ := after?_cases stepped
      · rw [h.reports_of_error answered, List.append_nil]
        exact h
      · exact h.result? (kept op List.mem_cons_self) answered
    rw [List.flatMap_cons, ← List.append_assoc]
    exact ih (reached.after? stepped) next
      (fun later mem ↦ kept later (List.mem_cons_of_mem op mem)) done

/-- From the time when a target is added until it is removed or another one is put in its place, its
returns are the last hundred of the history that it came with and of all returns reported since,
whatever other operations are carried out and however the returns were divided into reports.  Padded
to a hundred, they end with that window, and once there was a report the figures are those of the
window. -/
theorem returns_are_latest {before after : List Operation}
    (start : (new settings).carryOut? before = some a) (added : a.add t = .ok b)
    (kept : ∀ op ∈ after, ¬ op.Replaces t.id) (done : b.carryOut? after = some c) :
    ∃ u, c.target? t.id = some u ∧
      u.returns = lastEntries historyLength
        (t.returns ++ (after.flatMap (·.reports t.id)).flatten) ∧
      u.paddedReturns.length = historyLength ∧ u.returns <:+ u.paddedReturns ∧
      (after.flatMap (·.reports t.id) ≠ [] →
        u.figures = Performance.ofReturns u.returns c.settings.periodsPerYear) := by
  have reached : b.Reachable := ((Reachable.new settings).carryOut? start).add added
  obtain ⟨u, held, named, window, figures⟩ := (hasWindow_add added).carryOut? reached kept done
  have bounded : u.returns.length ≤ historyLength := by
    rw [window]
    exact length_lastEntries_le _ _
  refine ⟨u, ?_, window, u.length_paddedReturns, suffix_paddedReturns bounded, figures⟩
  rw [← named]
  exact target?_of_mem (reached.carryOut? done).isDistinct held

/-- A target with one return more than a window holds. -/
def overfull : Target :=
  { idle "a" .strategy 0.0 with returns := List.replicate 101 0.5 }

/-- Two reports on one target, after another one is added and with a report on that and a switch
between them. -/
def twoReports : List Operation :=
  [.add (idle "b" .broker 0.0), .updatePerformance "a" [0.25, 0.125] Instant.epoch,
    .updatePerformance "b" [1.0] Instant.epoch, .setActive "a" false,
    .updatePerformance "a" [0.75] Instant.epoch]

/-- Three returns of two reports move a full window on by three. -/
theorem returns_are_latest_twoReports : ∃ b c u,
    (new Settings.standard).add overfull = .ok b ∧ b.carryOut? twoReports = some c ∧
      c.target? "a" = some u ∧ u.returns = List.replicate 97 0.5 ++ [0.25, 0.125, 0.75] ∧
      u.paddedReturns = u.returns ∧
      u.figures = Performance.ofReturns u.returns c.settings.periodsPerYear := by
  have start : (new Settings.standard).carryOut? [] = some (new Settings.standard) := rfl
  obtain ⟨b, added, ends⟩ : ∃ b, (new Settings.standard).add overfull = .ok b ∧
      (b.carryOut? twoReports).isSome := ⟨_, if_pos (by decide), rfl⟩
  obtain ⟨c, done⟩ := Option.isSome_iff_exists.1 ends
  have kept : ∀ op ∈ twoReports, ¬ op.Replaces "a" := by
    simp [twoReports, Operation.Replaces, idle]
  obtain ⟨u, found, window, count, padded, figures⟩ := returns_are_latest start added kept done
  have returns : u.returns = List.replicate 97 0.5 ++ [0.25, 0.125, 0.75] := window
  refine ⟨b, c, u, added, done, found, returns, ?_, figures (List.cons_ne_nil _ _)⟩
  apply (padded.eq_of_length _).symm
  rw [count, returns]
  rfl

end Allocator

end TradingDesk.Allocation
