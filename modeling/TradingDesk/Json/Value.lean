/-!
# Data Values

Requests, candle files, stored states and settings are JSON.  A value keeps whole numbers of 64
bits apart from all other numbers, keeps the fields of an object in their written order, and keeps
repeated names, so that each reader can decide what a repetition means.
-/

namespace TradingDesk

/-- A JSON value. -/
inductive Json where
  | null
  | bool (b : Bool)
  | int (i : Int)
  | real (x : Float)
  | str (s : String)
  | arr (items : List Json)
  | obj (fields : List (String × Json))
deriving Inhabited

namespace Json

/-- The value of the last field of a name. -/
def field? (name : String) : Json → Option Json
  | .obj fields => (fields.reverse.find? (·.1 == name)).map (·.2)
  | _ => none

/-- The items of an array. -/
def items? : Json → Option (List Json)
  | .arr items => some items
  | _ => none

/-- An absent value is null. -/
def ofOption {α : Type} (toJson : α → Json) : Option α → Json
  | none => .null
  | some a => toJson a

/-- An array of encoded items. -/
def ofList {α : Type} (toJson : α → Json) (items : List α) : Json :=
  .arr (items.map toJson)

/-- A failure of a class, with its text. -/
def failure (kind message : String) : Json :=
  .obj [("error", .str kind), ("message", .str message)]

/-- An object with further fields. -/
def extend (more : List (String × Json)) : Json → Json
  | .obj fields => .obj (fields ++ more)
  | j => j

/-- An object without the fields of some names. -/
def without (names : List String) : Json → Json
  | .obj fields => .obj (fields.filter fun field ↦ !names.contains field.1)
  | j => j

/-- An object with its values changed by a rule that may depend on their names. -/
def mapFields (f : String → Json → Json) : Json → Json
  | .obj fields => .obj (fields.map fun (name, value) ↦ (name, f name value))
  | j => j

mutual

/-- The value in which of repeated names only the last one is left. -/
def lastFields : Json → Json
  | .arr items => .arr (lastItems items)
  | .obj fields => .obj (lastPairs fields)
  | j => j

/-- The items in which of repeated names only the last one is left. -/
def lastItems : List Json → List Json
  | [] => []
  | item :: rest => lastFields item :: lastItems rest

/-- The fields without those that are repeated later. -/
def lastPairs : List (String × Json) → List (String × Json)
  | [] => []
  | (name, value) :: rest =>
    if rest.any (·.1 == name) then lastPairs rest else (name, lastFields value) :: lastPairs rest

end

/-- A natural number. -/
def nat (n : Nat) : Json :=
  .int n

end Json

end TradingDesk
