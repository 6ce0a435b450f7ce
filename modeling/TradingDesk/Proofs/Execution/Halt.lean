import TradingDesk.Proofs.Execution.Bisimulation
import TradingDesk.Proofs.Execution.Mirror
import TradingDesk.Proofs.Execution.Run

/-!
# What the Kill Switch Stops

The kill switch has three kinds of layers: the flag, the halt file, and one layer for each user.
Every act of an operator turns one layer on or off, or none, and an operation of the engine turns
none.  A layer is therefore as the last act that concerned it left it, whatever happened to the
others, and a user is stopped while the flag, the file or the user's own layer is on.

A stopped entry fails before anything is sent, and leaves the desk as it was.  Exits never look at
the switch: under any other switch they send the same orders and leave the same desk but for the
switch itself.
-/

namespace TradingDesk.Execution

/-! ## Layers -/

namespace KillSwitch

/-- What an operator does to the kill switch. -/
inductive Act where
  | engage
  | release
  | engageUser (user reason : String)
  | releaseUser (user : String)
  | writeFile (note : String)
  | clearFile

/-- The switch after an act; without a place for a halt file there is nothing to write to. -/
def act (k : KillSwitch) : Act → KillSwitch
  | .engage => k.engage
  | .release => k.release
  | .engageUser user reason => k.engageUser user reason
  | .releaseUser user => k.releaseUser user
  | .writeFile note => (k.writeFile note).getD k
  | .clearFile => k.clearFile.1

/-- A part of the switch that stops everyone or one user. -/
inductive Layer where
  | flag
  | file
  | user (name : String)

/-- Whether a layer is on. -/
def isOn (k : KillSwitch) : Layer → Bool
  | .flag => k.engaged
  | .file => (k.file.bind (·.note)).isSome
  | .user name => (k.users.find? name).isSome

/-- What an act turns a layer to, if it concerns the layer. -/
def Act.turns? (layer : Layer) (act : Act) : Option Bool :=
  match layer, act with
  | .flag, .engage => some true
  | .flag, .release => some false
  | .file, .writeFile _ => some true
  | .file, .clearFile => some false
  | .user name, .engageUser other _ => if name = other then some true else none
  | .user name, .releaseUser other => if name = other then some false else none
  | _, _ => none

/-- Whether a switch has a layer; the file needs a place. -/
def has (k : KillSwitch) : Layer → Bool
  | .file => k.file.isSome
  | .flag | .user _ => true

/-- Whether a layer is on after acts one after another, by the last act that concerned it. -/
def isLeftOn (k : KillSwitch) (acts : List Act) (layer : Layer) : Bool :=
  k.has layer && ((acts.filterMap (Act.turns? layer)).getLast?).getD (k.isOn layer)

/-- Whether acts one after another leave a user stopped. -/
def Stops (k : KillSwitch) (acts : List Act) (user : String) : Prop :=
  k.isLeftOn acts .flag ∨ k.isLeftOn acts .file ∨ k.isLeftOn acts (.user user)

instance (k : KillSwitch) (acts : List Act) (user : String) : Decidable (k.Stops acts user) :=
  inferInstanceAs (Decidable (_ ∨ _ ∨ _))

variable {k : KillSwitch} {user : String}

theorem isActive_iff :
    k.isActive user = true ↔ k.isOn .flag ∨ k.isOn .file ∨ k.isOn (.user user) := by
  unfold isActive check isOn
  cases flag : k.engaged with
  | true => simp
  | false =>
    cases place : k.file with
    | none => simp
    | some file => cases note : file.note <;> simp [fileReason?, note]

/-- A layer that is on is one that the switch has. -/
theorem isOn_eq_has_and (k : KillSwitch) (layer : Layer) :
    k.isOn layer = (k.has layer && k.isOn layer) := by
  cases layer with
  | flag | user => rfl
  | file => cases place : k.file <;> simp [isOn, has, place]

theorem has_act (k : KillSwitch) (act : Act) (layer : Layer) :
    (k.act act).has layer = k.has layer := by
  cases layer with
  | flag | user => rfl
  | file =>
    cases act with
    | engage | release | engageUser | releaseUser => rfl
    | writeFile note => cases place : k.file <;> simp [KillSwitch.act, writeFile, has, place]
    | clearFile => cases place : k.file <;> simp [KillSwitch.act, clearFile, has, place]

theorem isOn_user_act (k : KillSwitch) (act : Act) (name : String) :
    (k.act act).isOn (.user name) = (act.turns? (.user name)).getD (k.isOn (.user name)) := by
  cases act with
  | engage | release | clearFile => rfl
  | writeFile note => cases place : k.file <;> simp [KillSwitch.act, writeFile, place] <;> rfl
  | engageUser other reason =>
    by_cases same : name = other
    · simp [KillSwitch.act, engageUser, isOn, Act.turns?, same]
    · simp [KillSwitch.act, engageUser, isOn, Act.turns?, same, Table.find?_insert_of_ne same]
  | releaseUser other =>
    by_cases same : name = other
    · simp [KillSwitch.act, releaseUser, isOn, Act.turns?, same]
    · simp [KillSwitch.act, releaseUser, isOn, Act.turns?, same, Table.find?_erase_of_ne same]

/-- An act turns the layer that it concerns, and leaves the others as they were. -/
theorem isOn_act (k : KillSwitch) (act : Act) (layer : Layer) :
    (k.act act).isOn layer = (k.has layer && (act.turns? layer).getD (k.isOn layer)) := by
  cases layer with
  | user name => exact isOn_user_act k act name
  | flag =>
    cases act with
    | engage | release | engageUser | releaseUser | clearFile => rfl
    | writeFile note => cases place : k.file <;> simp [KillSwitch.act, writeFile, place] <;> rfl
  | file =>
    cases act with
    | engage | release | engageUser | releaseUser => exact isOn_eq_has_and k .file
    | writeFile note =>
      cases place : k.file <;> simp [KillSwitch.act, writeFile, isOn, has, Act.turns?, place]
    | clearFile =>
      cases place : k.file <;> simp [KillSwitch.act, clearFile, isOn, has, Act.turns?, place]

/-- A layer is as the last act left it that concerned it. -/
theorem isOn_foldl_act (k : KillSwitch) (acts : List Act) (layer : Layer) :
    (acts.foldl act k).isOn layer = k.isLeftOn acts layer := by
  induction acts generalizing k with
  | nil => exact isOn_eq_has_and k layer
  | cons act acts ih =>
    rw [List.foldl_cons, ih, isLeftOn, has_act, isOn_act, isLeftOn, List.filterMap_cons]
    cases act.turns? layer with
    | none => cases k.has layer <;> simp
    | some on =>
      rw [List.getLast?_cons, Option.getD_some, Option.getD_some]
      cases k.has layer <;> simp

/-- Acts one after another stop a user exactly when one of the user's layers is left on. -/
theorem isActive_foldl_act (k : KillSwitch) (acts : List Act) (user : String) :
    (acts.foldl act k).isActive user = true ↔ k.Stops acts user := by
  rw [isActive_iff, isOn_foldl_act, isOn_foldl_act, isOn_foldl_act, Stops]

end KillSwitch

variable {σ α β : Type} {e : Engine σ} {d d' : Desk σ}

/-! ## Operators between calls -/

/-- A call of an operation, or an act of an operator. -/
inductive Turn where
  | call (call : Call)
  | act (act : KillSwitch.Act)

/-- The act of an operator that a turn is, if it is one. -/
def Turn.act? : Turn → Option KillSwitch.Act
  | call _ => none
  | act done => some done

/-- The acts of operators among turns. -/
def Turn.acts (turns : List Turn) : List KillSwitch.Act :=
  turns.filterMap Turn.act?

namespace Engine

/-- The desk after a turn, however it ended. -/
def turn? (e : Engine σ) (d : Desk σ) : Turn → Option (Desk σ)
  | .call call => e.perform? d call
  | .act act => some { d with killSwitch := d.killSwitch.act act }

/-- The desk after turns one after another. -/
def turns? (e : Engine σ) (d : Desk σ) (turns : List Turn) : Option (Desk σ) :=
  turns.foldlM e.turn? d

theorem killSwitch_enter? {entry : Entry} {o : Outcome σ Position}
    (h : e.enter? d entry = some o) : o.desk.killSwitch = d.killSwitch := by
  cases enter?_step h with
  | barred => rfl
  | unfilled screened ordered answered =>
    obtain ⟨market, rfl⟩ := Desk.fill?_desk answered
    rfl
  | slipped screened ordered answered measured above unwound =>
    obtain ⟨market, rfl⟩ := Desk.fill?_desk answered
    obtain ⟨market, rfl⟩ := unwind?_desk unwound
    rfl
  | filled screened ordered answered measured within formed charged =>
    obtain ⟨market, rfl⟩ := Desk.fill?_desk answered
    rw [opened, Desk.bookTrade_desk]
    rfl

theorem killSwitch_exit? {x : Exit} {o : Outcome σ ExitReport} (h : e.exit? d x = some o) :
    o.desk.killSwitch = d.killSwitch := by
  cases exit?_step h with
  | invalid | absent => rfl
  | unfilled inside held ordered answered =>
    obtain ⟨market, rfl⟩ := Desk.fill?_desk answered
    rfl
  | filled inside held ordered answered reduced reported =>
    obtain ⟨market, rfl⟩ := Desk.fill?_desk answered
    rw [settled, Desk.bookTrade_desk]
    rfl

/-- Operations leave the switch alone. -/
theorem killSwitch_perform? {call : Call} (h : e.perform? d call = some d') :
    d'.killSwitch = d.killSwitch := by
  apply perform?_preserves (P := fun between ↦ between.killSwitch = d.killSwitch) _ _ rfl h
  · intro d₁ entry o same entered
    exact (killSwitch_enter? entered).trans same
  · intro d₁ x o same exited
    exact (killSwitch_exit? exited).trans same

/-- Among turns only the acts change the switch. -/
theorem killSwitch_turns? {turns : List Turn} (h : e.turns? d turns = some d') :
    d'.killSwitch = (Turn.acts turns).foldl KillSwitch.act d.killSwitch := by
  induction turns generalizing d with
  | nil =>
    cases h
    rfl
  | cons turn turns ih =>
    obtain ⟨between, taken, h⟩ := Option.bind_eq_some_iff.1 h
    rw [ih h]
    cases turn with
    | call call =>
      rw [killSwitch_perform? taken]
      rfl
    | act act =>
      cases taken
      rfl

/-! ## Stopped entries -/

/-- An entry of a user who is stopped fails before anything is sent. -/
theorem enter?_of_active {entry : Entry} (active : d.killSwitch.isActive entry.user = true) :
    ∃ reason, e.enter? d entry = some (.failed d (.killSwitch reason)) := by
  obtain ⟨reason, stopped⟩ := Option.isSome_iff_exists.1 active
  refine ⟨reason, ?_⟩
  rw [enter?, screen, stopped]

theorem isActive_of_screen {entry : Entry} {reason : String}
    (screened : e.screen d entry = .error (.killSwitch reason)) :
    d.killSwitch.isActive entry.user = true := by
  unfold screen at screened
  split at screened
  · rename_i stopped
    exact Option.isSome_iff_exists.2 ⟨_, stopped⟩
  · repeat (split at screened; cases screened)
    cases screened

/-- An entry of a user who is not stopped does not fail on the switch. -/
theorem result_ne_killSwitch {entry : Entry} {o : Outcome σ Position}
    (inactive : ¬d.killSwitch.isActive entry.user = true) (h : e.enter? d entry = some o)
    (reason : String) : o.result ≠ .error (.killSwitch reason) := by
  intro stopped
  cases enter?_step h with
  | barred screened =>
    cases stopped
    exact inactive (isActive_of_screen screened)
  | unfilled screened ordered answered =>
    cases stopped
    obtain ⟨text, wrong⟩ | ⟨refusal, wrong⟩ := Desk.fill?_failed answered
    · cases wrong
    · cases wrong
  | slipped => cases stopped
  | filled =>
    obtain ⟨failure, wrong⟩ := Desk.bookTrade_error stopped
    cases wrong

end Engine

/-! ## Exits under another switch -/

/-- A desk under another switch. -/
def Desk.under (d : Desk σ) (k : KillSwitch) : Desk σ :=
  { d with killSwitch := k }

/-- An outcome with the same result and a desk that differs in the switch alone. -/
def Outcome.under (o : Outcome σ α) (k : KillSwitch) : Outcome σ α :=
  ⟨o.desk.under k, o.result⟩

section Under

variable (k : KillSwitch)

/-- Whether a desk is another one under a switch. -/
def Desk.IsUnder (d d' : Desk σ) : Prop :=
  d' = d.under k

theorem Desk.bookTrade_under (d : Desk σ) (trade : Trade)
    (next : Ledger → Except Ledger.Error Ledger) (value : α) :
    (d.bookTrade trade next value).Related (Desk.IsUnder k) Eq
      ((d.under k).bookTrade trade next value) := by
  unfold bookTrade
  rw [show (d.under k).ledger = d.ledger from rfl]
  obtain ⟨ledger, written⟩ := recordInto d.ledger trade next
  cases written with
  | error e => exact ⟨rfl, .error _⟩
  | ok => exact ⟨rfl, .ok rfl⟩

/-- Outcomes that are related under a switch are the same but for the switch. -/
theorem eq_map_under {x y : Option (Outcome σ α)}
    (related : Option.Rel (Outcome.Related (Desk.IsUnder k) Eq) x y) :
    y = x.map (·.under k) := by
  cases related with
  | none => rfl
  | @some o o' both =>
    obtain ⟨d, result⟩ := o
    obtain ⟨d', result'⟩ := o'
    obtain rfl : d' = d.under k := both.desk
    cases both.result with
    | error e => rfl
    | ok same =>
      cases same
      rfl

/-- Exits treat desks alike that differ in the switch alone. -/
theorem Engine.bisimulation_under (e : Engine σ) : e.Bisimulation Eq (Desk.IsUnder k) where
  position := by
    rintro p _ rfl
    exact ⟨p.openedAt, rfl⟩
  held := by
    rintro d _ rfl user symbol
    change Option.Rel Eq (d.book.find? user symbol) (d.book.find? user symbol)
    exact rel_same _
  market := by
    rintro d _ rfl
    rfl
  order := by
    rintro d _ rfl order market
    rfl
  settle := by
    rintro p _ d _ rfl rfl x fill
    refine rel_bind_same (afterExit? p x fill) fun after ↦ ?_
    refine rel_bind_same (e.report? after x fill) fun report ↦ .some ?_
    exact Desk.bookTrade_under k { d with book := bookAfter d.book after } _ _ report

end Under

/-! ## The law -/

namespace Engine

/-- Whether exits of a desk are the same under another switch, in their results, their orders and
what they leave, but for the switch itself. -/
structure ExitsUnder (e : Engine σ) (d : Desk σ) (k : KillSwitch) : Prop where
  exit : ∀ x, e.exit? (d.under k) x = (e.exit? d x).map (·.under k)
  forced : ∀ user symbol reason, e.forceExit? (d.under k) user symbol reason =
    (e.forceExit? d user symbol reason).map (·.under k)
  steps : ∀ user symbol price, e.takeSteps? (d.under k) user symbol price =
    (e.takeSteps? d user symbol price).map (·.under k)
  check : ∀ user symbol price, e.check? (d.under k) user symbol price =
    (e.check? d user symbol price).map (·.under k)

theorem exitsUnder (e : Engine σ) (d : Desk σ) (k : KillSwitch) : e.ExitsUnder d k := by
  have alike : e.Bisimulation Eq (Desk.IsUnder k) := e.bisimulation_under k
  constructor
  · exact fun x ↦ eq_map_under k (alike.exit? rfl x)
  · exact fun user symbol reason ↦ eq_map_under k (alike.forceExit? rfl user symbol reason)
  · exact fun user symbol price ↦ eq_map_under k (alike.takeSteps? rfl user symbol price)
  · exact fun user symbol price ↦ eq_map_under k (alike.check? rfl user symbol price)

/-- After any turns, a user is stopped exactly when the flag, the file or the user's own layer was
left on.  An entry of a stopped user fails and leaves the desk as it was, with nothing sent, opened
or written; no other entry fails on the switch.  Exits of any desk are the same under any switch. -/
theorem kill_switch_stops_entries_only (e : Engine σ) (d d' : Desk σ) (turns : List Turn)
    (ran : e.turns? d turns = some d') :
    (∀ entry : Entry,
      (d.killSwitch.Stops (Turn.acts turns) entry.user →
        ∃ reason, e.enter? d' entry = some (.failed d' (.killSwitch reason))) ∧
      (¬d.killSwitch.Stops (Turn.acts turns) entry.user →
        ∀ o reason, e.enter? d' entry = some o → o.result ≠ .error (.killSwitch reason))) ∧
      ∀ (between : Desk σ) (k : KillSwitch), e.ExitsUnder between k := by
  refine ⟨fun entry ↦ ?_, e.exitsUnder⟩
  rw [← KillSwitch.isActive_foldl_act, ← killSwitch_turns? ran]
  exact ⟨enter?_of_active, fun inactive o reason entered ↦
    result_ne_killSwitch inactive entered reason⟩

end Engine

/-! ## Layers that overlap -/

/-- A desk with a place for a halt file, whose broker fills two orders at 100. -/
def switchDesk : Desk Broker.Script.State :=
  steadyDesk.under (KillSwitch.new (some ⟨"halt", none⟩))

/-- An entry before all three layers are turned on, an exit of half of it under them, and then the
flag and the file taken back, but not the layer of the user. -/
def overlappingTurns : List Turn :=
  [.call (.enter ⟨"alice", "BTC-USD", .buy, Decimal.const 100 0, Decimal.const 100 0⟩),
    .act (.engageUser "alice" "review"), .act .engage, .act (.writeFile "maintenance"),
    .call (.exit "alice" "BTC-USD" (Decimal.const 5 1) "half"), .act .release, .act .clearFile]

/-- An entry of a user in a symbol that nobody holds. -/
def freshEntry (user : String) : Entry :=
  ⟨user, "ETH-USD", .buy, Decimal.const 100 0, Decimal.const 100 0⟩

theorem kill_switch_stops_entries_only_overlapping :
    ∃ d', rehearsal.turns? switchDesk overlappingTurns = some d' ∧
      d'.book.map (·.remaining) = [Decimal.const 5 1] ∧
      (∃ reason, rehearsal.enter? d' (freshEntry "alice") =
        some (.failed d' (.killSwitch reason))) ∧
      (∀ o reason, rehearsal.enter? d' (freshEntry "bob") = some o →
        o.result ≠ .error (.killSwitch reason)) ∧
      rehearsal.ExitsUnder d' (KillSwitch.new none) := by
  have ran : (rehearsal.turns? switchDesk overlappingTurns).any (fun d ↦
      decide (d.book.map (·.remaining) = [Decimal.const 5 1])) = true := by
    decide +kernel
  obtain ⟨d', ran, half⟩ := (Option.any_eq_true _ _).1 ran
  obtain ⟨entries, exits⟩ := Engine.kill_switch_stops_entries_only _ _ _ _ ran
  refine ⟨d', ran, of_decide_eq_true half, ?_, ?_, exits d' _⟩
  · exact (entries (freshEntry "alice")).1 (by decide +kernel)
  · exact (entries (freshEntry "bob")).2 (by decide +kernel)

end TradingDesk.Execution
