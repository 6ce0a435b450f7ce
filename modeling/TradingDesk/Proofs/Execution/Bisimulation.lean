import TradingDesk.Proofs.Execution.Step
import TradingDesk.Proofs.Related

/-!
# Desks that Exits Treat Alike

An exit looks at the position that it is about and at the broker, and at nothing else on the desk.
When two desks show it the same of these, and still do so after an order and after the booking of
an exit, they send the same orders and give the same results, whichever way out is taken.
-/

namespace TradingDesk.Execution

variable {σ α β γ δ : Type} {R : Desk σ → Desk σ → Prop} {d d' : Desk σ}

/-! ## Outcomes -/

/-- Whether two outcomes leave related desks, and the same error or related results. -/
structure Outcome.Related (R : Desk σ → Desk σ → Prop) (r : α → β → Prop) (o : Outcome σ α)
    (o' : Outcome σ β) : Prop where
  desk : R o.desk o'.desk
  result : RelResult r o.result o'.result

namespace Outcome

variable {r : α → β → Prop} {r' : γ → δ → Prop} {o : Outcome σ α} {o' : Outcome σ β}

theorem related_done {a : α} {b : β} (desks : R d d') (both : r a b) :
    (done d a).Related R r (done d' b) :=
  ⟨desks, .ok both⟩

theorem related_failed (desks : R d d') (e : Error) :
    (failed d e : Outcome σ α).Related R r (failed d' e) :=
  ⟨desks, .error e⟩

/-- Goes on from related outcomes in a way that keeps them related. -/
theorem Related.andThen? (h : o.Related R r o') {next : Desk σ → α → Option (Outcome σ γ)}
    {next' : Desk σ → β → Option (Outcome σ δ)}
    (step : ∀ d d' a b, R d d' → r a b → Option.Rel (Related R r') (next d a) (next' d' b)) :
    Option.Rel (Related R r') (o.andThen? next) (o'.andThen? next') := by
  obtain ⟨d, result⟩ := o
  obtain ⟨d', result'⟩ := o'
  cases h.result with
  | error e => exact .some (related_failed h.desk e)
  | ok both => exact step _ _ _ _ h.desk both

theorem Related.map (h : o.Related R r o') {f : α → γ} {g : β → δ}
    (both : ∀ a b, r a b → r' (f a) (g b)) : (o.map f).Related R r' (o'.map g) := by
  obtain ⟨d, result⟩ := o
  obtain ⟨d', result'⟩ := o'
  cases h.result with
  | error e => exact related_failed h.desk e
  | ok related => exact related_done h.desk (both _ _ related)

/-- The same change of equal results. -/
theorem Related.map_same {o o' : Outcome σ α} (h : o.Related R Eq o') (f : α → γ) :
    (o.map f).Related R Eq (o'.map f) :=
  h.map fun _ _ same ↦ congrArg f same

end Outcome

open Outcome (related_done related_failed)

/-- Desks with one broker get the same answers. -/
theorem Desk.fill?_related (broker : Broker σ) (order : Order.Request)
    (market : d.market = d'.market)
    (after : ∀ market, R (d.afterOrder order market) (d'.afterOrder order market)) :
    Option.Rel (Outcome.Related R Eq) (d.fill? broker order) (d'.fill? broker order) := by
  unfold fill?
  rw [market]
  refine rel_bind_same _ fun (answer, market) ↦ ?_
  cases answer with
  | error text => exact .some (related_failed (after market) _)
  | ok response =>
    refine rel_bind_same _ fun checked ↦ ?_
    cases checked with
    | error refusal => exact .some (related_failed (after market) _)
    | ok fill => exact .some (related_done (after market) rfl)

/-! ## Exits -/

namespace Engine

/-- Whether a relation of desks shows an exit the same broker and related positions, and is kept by
an order and by the booking of an exit.  Related positions differ in their times at most. -/
structure Bisimulation (e : Engine σ) (S : Position → Position → Prop)
    (R : Desk σ → Desk σ → Prop) : Prop where
  position : ∀ {p p'}, S p p' → ∃ time, p' = { p with openedAt := time }
  held : ∀ {d d'}, R d d' → ∀ user symbol,
    Option.Rel S (d.book.find? user symbol) (d'.book.find? user symbol)
  market : ∀ {d d'}, R d d' → d.market = d'.market
  order : ∀ {d d'}, R d d' → ∀ order market,
    R (d.afterOrder order market) (d'.afterOrder order market)
  settle : ∀ {p p' d d'}, S p p' → R d d' → ∀ x fill,
    Option.Rel (Outcome.Related R Eq) (e.settle? p x d fill) (e.settle? p' x d' fill)

variable {e : Engine σ} {S : Position → Position → Prop}

namespace Bisimulation

theorem exit? (b : e.Bisimulation S R) (h : R d d') (x : Exit) :
    Option.Rel (Outcome.Related R Eq) (e.exit? d x) (e.exit? d' x) := by
  unfold Engine.exit?
  split
  · exact .some (related_failed h _)
  · have held := b.held h x.user x.symbol
    generalize d.book.find? x.user x.symbol = p, d'.book.find? x.user x.symbol = p' at held ⊢
    cases held with
    | none => exact .some (related_failed h _)
    | @some p p' same =>
      have orders : exitOrder? p' x = exitOrder? p x := by
        obtain ⟨time, rfl⟩ := b.position same
        rfl
      dsimp only
      rw [orders]
      refine rel_bind_same _ fun order ↦ ?_
      refine rel_bind (Desk.fill?_related e.broker order (b.market h) (b.order h order))
        fun o o' _ both ↦ both.andThen? ?_
      rintro d d' fill _ desks rfl
      exact b.settle same desks x fill

theorem forceExit? (b : e.Bisimulation S R) (h : R d d') (user symbol reason : String) :
    Option.Rel (Outcome.Related R Eq) (e.forceExit? d user symbol reason)
      (e.forceExit? d' user symbol reason) := by
  refine rel_bind (b.exit? h _) fun first first' _ both ↦ ?_
  obtain ⟨d, result⟩ := first
  obtain ⟨d', result'⟩ := first'
  cases both.result with
  | ok => exact .some both
  | error error =>
    dsimp only
    split
    · exact b.exit? both.desk _
    · exact .some both

theorem fire? (b : e.Bisimulation S R) (user symbol : String) (hits : List LadderHit)
    (h : R d d') :
    Option.Rel (Outcome.Related R Eq) (e.fire? user symbol d hits)
      (e.fire? user symbol d' hits) := by
  induction hits generalizing d d' with
  | nil => exact .some (related_done h rfl)
  | cons hit hits ih =>
    unfold Engine.fire?
    have held := b.held h user symbol
    generalize d.book.find? user symbol = p, d'.book.find? user symbol = p' at held ⊢
    cases held with
    | none => exact .some (related_failed h _)
    | @some p p' same =>
      have remaining : p'.remaining = p.remaining := by
        obtain ⟨time, rfl⟩ := b.position same
        rfl
      dsimp only
      rw [remaining]
      refine rel_bind_same _ fun fraction ↦ ?_
      split
      · exact ih h
      · refine rel_bind_same _ fun reason ↦ ?_
        refine rel_bind (b.exit? h _) fun o o' _ both ↦ both.andThen? ?_
        rintro d d' report _ desks rfl
        split
        · exact .some (related_done desks rfl)
        · exact rel_map (ih desks) fun o o' both ↦ both.map_same _

theorem takeSteps? (b : e.Bisimulation S R) (h : R d d') (user symbol : String)
    (price : Decimal) :
    Option.Rel (Outcome.Related R Eq) (e.takeSteps? d user symbol price)
      (e.takeSteps? d' user symbol price) := by
  unfold Engine.takeSteps?
  have held := b.held h user symbol
  generalize d.book.find? user symbol = p, d'.book.find? user symbol = p' at held ⊢
  cases held with
  | none => exact .some (related_failed h _)
  | @some p p' same =>
    obtain ⟨time, rfl⟩ := b.position same
    exact rel_bind_same (e.settings.ladder.pendingHits? p price) fun hits ↦
      b.fire? user symbol hits h

/-- A check of related desks sends the same orders and gives the same reports. -/
theorem check? (b : e.Bisimulation S R) (h : R d d') (user symbol : String) (price : Decimal) :
    Option.Rel (Outcome.Related R Eq) (e.check? d user symbol price)
      (e.check? d' user symbol price) := by
  unfold Engine.check?
  have held := b.held h user symbol
  generalize d.book.find? user symbol = p, d'.book.find? user symbol = p' at held ⊢
  cases held with
  | none => exact .some (related_failed h _)
  | @some p p' same =>
    obtain ⟨time, rfl⟩ := b.position same
    change Option.Rel _ (if p.stopHit price then _ else _) (if p.stopHit price then _ else _)
    split
    · exact rel_map (b.forceExit? h user symbol _) fun _ _ both ↦ both.map_same _
    · change Option.Rel _ (if p.takeProfitHit price then _ else _)
        (if p.takeProfitHit price then _ else _)
      split
      · exact rel_map (b.exit? h _) fun _ _ both ↦ both.map_same _
      · exact b.takeSteps? h user symbol price

end Bisimulation

end Engine

end TradingDesk.Execution
