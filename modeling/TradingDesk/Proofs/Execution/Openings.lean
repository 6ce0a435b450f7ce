import TradingDesk.Proofs.Execution.Gate
import TradingDesk.Proofs.Execution.Results
import TradingDesk.Proofs.Execution.Sale

/-!
# Openings and Reductions

An entry that goes through opens one position and books one trade, and one that fails opens none.
Exits open nothing: the positions of a user get no more, and every order is on the side opposite to
the position that it takes something off.
-/

namespace TradingDesk

namespace Ledger

/-- Whether a trade is an entry of a user. -/
def isEntryOf (user : String) (t : Trade) : Bool :=
  t.kind = .entry && t.user = user

/-- The entries of a user, newest first. -/
def entriesOf (l : Ledger) (user : String) : List Trade :=
  l.history.filter (isEntryOf user)

end Ledger

namespace Execution

/-! ## The number of positions -/

namespace Book

variable {b : Book} {p q : Position}

theorem count_append_self (b : Book) (p : Position) :
    (b ++ [p]).count p.user = b.count p.user + 1 := by
  simp [count, ofUser]

/-- A position that replaces another one is the only one in its place still. -/
theorem count_insert_of_held (distinct : b.IsDistinct) (held : b.find? p.user p.symbol = some q)
    (user : String) : (b.insert p).count user = b.count user := by
  rw [insert_of_held distinct held, count, ofUser, List.filter_map, List.length_map, count, ofUser]
  congr 1
  apply List.filter_congr
  intro r mem
  exact congrArg (· == user) (key_replace p r).1

theorem count_erase_le (b : Book) (user symbol other : String) :
    (b.erase user symbol).count other ≤ b.count other :=
  (List.filter_sublist.filter _).length_le

theorem count_bookAfter_le (distinct : b.IsDistinct) (held : b.find? p.user p.symbol = some q)
    (user : String) : (Engine.bookAfter b p).count user ≤ b.count user := by
  unfold Engine.bookAfter
  split
  · exact count_erase_le b p.user p.symbol user
  · exact Nat.le_of_eq (count_insert_of_held distinct held user)

theorem IsDistinct.bookAfter (distinct : b.IsDistinct) (p : Position) :
    (Engine.bookAfter b p).IsDistinct := by
  unfold Engine.bookAfter
  split
  · exact distinct.erase p.user p.symbol
  · exact distinct.insert p

end Book

/-- Whether orders are the one of an entry, perhaps with one that trades back what it filled. -/
def Entry.Orders (entry : Entry) (orders : List Order.Request) : Prop :=
  ∃ order, Engine.entryOrder? entry = some order ∧
    (orders = [order] ∨ ∃ quantity, orders = [order, ⟨entry.symbol, entry.side.opposite, quantity⟩])

namespace Engine

variable {σ : Type} {e : Engine σ} {d d' d'' : Desk σ} {user symbol : String} {side : Side}

/-! ## Entries -/

/-- An entry sends nothing, or its order and perhaps one that trades it back. -/
theorem enter?_orders {entry : Entry} {o : Outcome σ Position} (h : e.enter? d entry = some o) :
    ∃ orders, o.desk.sent = d.sent ++ orders ∧ (orders = [] ∨ entry.Orders orders) := by
  have law := enter?_law h
  by_cases bars : e.Bars d entry
  · obtain ⟨error, rfl⟩ := law.barred bars
    exact ⟨[], (List.append_nil _).symm, .inl rfl⟩
  by_cases lost : o.IsImmediateLoss
  · obtain ⟨-, order, d', fill, ordered, -, sent⟩ := law.lost lost
    exact ⟨_, sent, .inr ⟨order, ordered, .inr ⟨fill.quantity, rfl⟩⟩⟩
  · obtain ⟨order, ordered, sent⟩ := law.kept bars lost
    exact ⟨_, sent, .inr ⟨order, ordered, .inl rfl⟩⟩

/-- What an entry that goes through leaves: one more position and one more trade. -/
structure Opens (entry : Entry) (d d' : Desk σ) : Prop where
  distinct : d.book.IsDistinct → d'.book.IsDistinct
  count : d'.book.count entry.user = d.book.count entry.user + 1
  entries : (d'.ledger.entriesOf entry.user).length = (d.ledger.entriesOf entry.user).length + 1

/-- An entry on a writable desk opens a position, or it leaves book and ledger alone. -/
theorem enter?_opens {entry : Entry} {o : Outcome σ Position} (w : d.Writable)
    (h : e.enter? d entry = some o) :
    (∃ p, o.result = .ok p ∧ Opens entry d o.desk) ∨
      ∃ error, o.result = .error error ∧ o.desk.book = d.book ∧ o.desk.ledger = d.ledger := by
  cases enter?_step h with
  | barred => exact .inr ⟨_, rfl, rfl, rfl⟩
  | unfilled screened ordered answered =>
    obtain ⟨market, rfl⟩ := Desk.fill?_desk answered
    exact .inr ⟨_, rfl, rfl, rfl⟩
  | slipped screened ordered answered measured above unwound =>
    obtain ⟨market, rfl⟩ := Desk.fill?_desk answered
    obtain ⟨market', rfl⟩ := unwind?_desk unwound
    exact .inr ⟨_, rfl, rfl, rfl⟩
  | @filled order _ fill _ p fee screened ordered answered measured within formed charged =>
    obtain ⟨market, rfl⟩ := Desk.fill?_desk answered
    obtain ⟨user, symbol, -⟩ := position?_key formed
    have absent : d.book.find? p.user p.symbol = none := by
      rw [user, symbol]
      exact absent_of_not_bars (screen_eq_ok_iff.1 screened)
    rw [opened_of_writable (w.afterOrder order market)]
    have book : (afterEntry (d.afterOrder order market) entry fill p fee).book = d.book ++ [p] :=
      Book.insert_of_absent absent
    refine .inl ⟨p, rfl, ?_, ?_, ?_⟩
    · intro distinct
      change (afterEntry (d.afterOrder order market) entry fill p fee).book.IsDistinct
      rw [book]
      exact distinct.append_of_absent absent
    · change (afterEntry (d.afterOrder order market) entry fill p fee).book.count entry.user = _
      rw [book, ← user]
      exact Book.count_append_self d.book p
    · change ((afterEntry (d.afterOrder order market) entry fill p fee).ledger.entriesOf
        entry.user).length = _
      rw [Ledger.entriesOf, history_afterEntry, List.filter_cons_of_pos, List.length_cons]
      · rfl
      · exact Bool.and_eq_true_iff.2 ⟨rfl, decide_eq_true user⟩

/-! ## Exits -/

/-- What exits of a user in a symbol leave of a desk whose position there is on a side. -/
structure Reduces (user symbol : String) (side : Side) (d d' : Desk σ) : Prop where
  writable : d'.Writable
  distinct : d'.book.IsDistinct
  sided : ∀ p, d'.book.find? user symbol = some p → p.side = side
  count : ∀ user, d'.book.count user ≤ d.book.count user
  entries : ∀ user, d'.ledger.entriesOf user = d.ledger.entriesOf user
  sent : ∃ orders, d'.sent = d.sent ++ orders ∧
    ∀ order ∈ orders, order.symbol = symbol ∧ order.side = side.opposite

theorem Reduces.refl (w : d.Writable) (distinct : d.book.IsDistinct)
    (sided : ∀ p, d.book.find? user symbol = some p → p.side = side) :
    Reduces user symbol side d d :=
  ⟨w, distinct, sided, fun _ ↦ Nat.le_refl _, fun _ ↦ rfl,
    [], (List.append_nil _).symm, by simp⟩

theorem Reduces.trans (first : Reduces user symbol side d d')
    (second : Reduces user symbol side d' d'') : Reduces user symbol side d d'' := by
  obtain ⟨orders, sent, opposite⟩ := first.sent
  obtain ⟨orders', sent', opposite'⟩ := second.sent
  refine ⟨second.writable, second.distinct, second.sided, ?_, ?_, orders ++ orders', ?_, ?_⟩
  · intro user
    exact (second.count user).trans (first.count user)
  · intro user
    rw [second.entries, first.entries]
  · rw [sent', sent, List.append_assoc]
  · intro order mem
    exact (List.mem_append.1 mem).elim (opposite order) (opposite' order)

theorem exit?_reduces {x : Exit} {o : Outcome σ ExitReport} (w : d.Writable)
    (distinct : d.book.IsDistinct)
    (sided : ∀ p, d.book.find? x.user x.symbol = some p → p.side = side)
    (h : e.exit? d x = some o) : Reduces x.user x.symbol side d o.desk := by
  cases exit?_step h with
  | invalid => exact .refl w distinct sided
  | absent => exact .refl w distinct sided
  | @unfilled p order _ _ inside held ordered answered =>
    obtain ⟨market, rfl⟩ := Desk.fill?_desk answered
    obtain ⟨symbol, orderSide⟩ := exitOrder?_key ordered
    rw [sided p held] at orderSide
    exact ⟨w.afterOrder order market, distinct, sided, fun _ ↦ Nat.le_refl _, fun _ ↦ rfl, [order],
      rfl, List.forall_mem_singleton.2 ⟨symbol, orderSide⟩⟩
  | @filled p after order _ fill report inside held ordered answered reduced reported =>
    obtain ⟨market, rfl⟩ := Desk.fill?_desk answered
    obtain ⟨symbol, orderSide⟩ := exitOrder?_key ordered
    obtain ⟨ofUser, inSymbol⟩ := Book.of_find?_eq_some held
    obtain ⟨keptUser, keptSymbol, keptSide⟩ := afterExit?_key reduced
    have held' : d.book.find? after.user after.symbol = some p := by
      rw [keptUser, keptSymbol, ofUser, inSymbol, held]
    have w' := w.afterOrder order market
    rw [settled_of_writable w']
    refine ⟨writable_afterExit w' p after x fill report, distinct.bookAfter after, ?_, ?_, ?_,
      [order], rfl, ?_⟩
    · intro q found
      change (bookAfter d.book after).find? x.user x.symbol = some q at found
      rw [← ofUser, ← inSymbol, ← keptUser, ← keptSymbol, find?_bookAfter] at found
      obtain ⟨rfl, -⟩ := kept?_eq_some found
      rw [keptSide, sided p held]
    · exact Book.count_bookAfter_le distinct held'
    · intro user
      change (afterExit (d.afterOrder order market) p after x fill report).ledger.entriesOf user = _
      rw [Ledger.entriesOf, history_afterExit, List.filter_cons_of_neg]
      · rfl
      · exact Bool.false_ne_true
    · rw [sided p held] at orderSide
      exact List.forall_mem_singleton.2 ⟨symbol, orderSide⟩

theorem Attempts.reduces {tried : List (Outcome σ ExitReport)}
    (h : Attempts e user symbol d tried d') (w : d.Writable) (distinct : d.book.IsDistinct)
    (sided : ∀ p, d.book.find? user symbol = some p → p.side = side) :
    Reduces user symbol side d d' := by
  induction h with
  | none d => exact .refl w distinct sided
  | @next d d' x o rest ofUser inSymbol tried more ih =>
    subst ofUser inSymbol
    have first := exit?_reduces w distinct sided tried
    exact first.trans (ih first.writable first.distinct first.sided)

end Engine

end Execution

end TradingDesk
