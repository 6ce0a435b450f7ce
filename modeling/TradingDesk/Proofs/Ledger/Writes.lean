import TradingDesk.Ledger.Basic

/-!
# Writes to the Ledger

A write that succeeds changes one table in one way: a trade or a position is added at the end, or
the open rows of a user in a symbol are rewritten in place.  Without outages the writes of positions
always succeed, and a trade is recorded whenever its name is new.
-/

namespace TradingDesk.Ledger

variable {l l' : Ledger}

/-! ## What a successful write changed -/

theorem guarded_eq_ok {α : Type} {call : Call} {result : Except Error α} {a : α}
    (h : l.guarded call result = .ok a) : result = .ok a := by
  unfold guarded at h
  split at h
  · cases h
  · exact h

theorem insertTrade_eq_some {row : TradeRow} (h : l.insertTrade row = some l') :
    l' = { l with trades := l.trades ++ [row] } := by
  unfold insertTrade at h
  split at h
  · cases h
  · exact (Option.some.inj h).symm

theorem record_eq_ok {expected : Side} {call : Call} {t : Trade}
    (h : l.record expected call t = .ok l') :
    l' = { l with trades := l.trades ++ [.booked t] } := by
  have inner := guarded_eq_ok h
  split at inner
  · cases inner
  · split at inner
    · rename_i recorded
      cases inner
      exact insertTrade_eq_some recorded
    · cases inner

theorem recordFill_eq_ok {t : Trade} (h : l.recordFill t = .ok l') :
    l' = { l with trades := l.trades ++ [.booked t] } := by
  unfold recordFill at h
  split at h
  · exact record_eq_ok h
  · exact record_eq_ok h

theorem openPosition_eq_ok {p : Position} (h : l.openPosition p = .ok l') :
    l' = { l with positions := l.positions ++ [⟨.booked p, none, false⟩] } :=
  (Except.ok.inj (guarded_eq_ok h)).symm

/-! ## Writes that succeed -/

theorem insertTrade_of_fresh {t : Trade} (fresh : ∀ row ∈ l.trades, row.id? ≠ some t.id) :
    l.insertTrade (.booked t) = some { l with trades := l.trades ++ [.booked t] } := by
  have unused : l.trades.any (·.id? == (TradeRow.booked t).id?) = false := by
    rw [List.any_eq_false]
    intro row mem
    simpa [TradeRow.id?] using fresh row mem
  simp [insertTrade, unused]

theorem recordFill_of_fresh {t : Trade} (online : l.outages = [])
    (fresh : ∀ row ∈ l.trades, row.id? ≠ some t.id) :
    l.recordFill t = .ok { l with trades := l.trades ++ [.booked t] } := by
  cases side : t.side <;>
    simp [recordFill, side, recordBuy, recordSell, record, online, insertTrade_of_fresh fresh]

theorem openPosition_of_online (online : l.outages = []) (p : Position) :
    l.openPosition p = .ok { l with positions := l.positions ++ [⟨.booked p, none, false⟩] } :=
  guarded_of_no_outage online _ _

theorem updateRemaining_of_online (online : l.outages = []) (p : Position) :
    l.updateRemaining p = .ok (l.mapOpen p.user p.symbol fun row ↦
      { row with content := row.content.withProgress p.remaining p.ladderHits }) :=
  guarded_of_no_outage online _ _

theorem closePosition_of_online (online : l.outages = []) (user symbol : String)
    (price : Decimal) :
    l.closePosition user symbol price = .ok (l.mapOpen user symbol (·.close price)) :=
  guarded_of_no_outage online _ _

end TradingDesk.Ledger
