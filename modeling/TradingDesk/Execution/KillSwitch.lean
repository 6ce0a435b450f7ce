import TradingDesk.Table
import TradingDesk.Text.Blank

/-!
# Kill Switch

The kill switch stops new positions for everyone or for one user.  Everyone is stopped by a flag and
by a file that an operator leaves in a known place, one user by a reason filed under its name.  The
reason that is given is that of the flag, then of the file, then of the user.
-/

namespace TradingDesk.Execution

/-- The place of the halt file, and the note in it when the file is there. -/
structure HaltFile where
  path : String
  note : Option String
deriving DecidableEq

/-- The flag, the users and the file that stop new positions. -/
structure KillSwitch where
  engaged : Bool
  users : Table String
  file : Option HaltFile

namespace KillSwitch

/-- A switch that stops nobody, with a place for a halt file or without one. -/
def new (file : Option HaltFile) : KillSwitch :=
  ⟨false, [], file⟩

instance : Inhabited KillSwitch := ⟨new none⟩

/-- The reason that a halt file gives, when it is there. -/
def fileReason? (file : HaltFile) : Option String :=
  file.note.map fun note ↦
    let note := Text.trim note
    if note.isEmpty then "kill file present at " ++ file.path else "kill file present: " ++ note

/-- Why a user may not open positions, if so. -/
def check (k : KillSwitch) (user : String) : Option String :=
  if k.engaged then some "global kill switch engaged"
  else
    k.file.bind fileReason? <|> (k.users.find? user).map fun reason ↦
      "user kill switch: " ++ reason

/-- Whether a user may not open positions. -/
def isActive (k : KillSwitch) (user : String) : Bool :=
  (k.check user).isSome

/-- Stops everyone. -/
def engage (k : KillSwitch) : KillSwitch :=
  { k with engaged := true }

/-- Takes the flag back. -/
def release (k : KillSwitch) : KillSwitch :=
  { k with engaged := false }

/-- Stops a user. -/
def engageUser (k : KillSwitch) (user reason : String) : KillSwitch :=
  { k with users := k.users.insert user reason }

/-- Lets a user go on. -/
def releaseUser (k : KillSwitch) (user : String) : KillSwitch :=
  { k with users := k.users.erase user }

/-- The text of a switch without a place for a halt file. -/
def noFile : String := "No kill file configured"

/-- Leaves a note in the halt file; there has to be a place for it. -/
def writeFile (k : KillSwitch) (note : String) : Option KillSwitch :=
  k.file.map fun file ↦ { k with file := some { file with note := some note } }

/-- Removes the halt file, and tells whether it was there. -/
def clearFile (k : KillSwitch) : KillSwitch × Bool :=
  ({ k with file := k.file.map fun file ↦ { file with note := none } },
    (k.file.bind (·.note)).isSome)

@[simp]
theorem isActive_engage (k : KillSwitch) (user : String) : k.engage.isActive user = true := rfl

end KillSwitch

end TradingDesk.Execution
