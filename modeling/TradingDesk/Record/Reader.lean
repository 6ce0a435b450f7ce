import TradingDesk.Record.Typing

/-!
# Reading Structures

A structure is read from an object by the names of its fields, or from an array by their order.
Unknown names are ignored, and a field that is given twice, under one name or under two of its
names, is refused.  An array may end early, and the missing fields are then absent, but may not
hold more items than there are fields.

Each field says what its absence means: an error, a default value, or no value.
-/

namespace TradingDesk.Record

/-- Where the fields of a structure come from. -/
inductive Source where
  | named (fields : List (String × Json))
  | positional (items : List Json)

/-- Reads fields one after another. -/
abbrev Reader := StateT Source Option

/-- The value of the next field, which may go by several names. -/
def next? (names : List String) : Reader (Option Json)
  | .named fields =>
    match fields.filter (names.contains ·.1) with
    | [] => some (none, .named fields)
    | [(_, value)] => some (some value, .named fields)
    | _ => none
  | .positional [] => some (none, .positional [])
  | .positional (item :: rest) => some (some item, .positional rest)

/-- A field that has to be present. -/
def required {α : Type} (names : List String) (read? : Json → Option α) : Reader α := do
  match ← next? names with
  | none => failure
  | some value => liftM (read? value)

/-- A field with a value for its absence. -/
def withDefault {α : Type} (names : List String) (read? : Json → Option α) (absent : α) :
    Reader α := do
  match ← next? names with
  | none => pure absent
  | some value => liftM (read? value)

/-- A field that may be absent or null. -/
def optional {α : Type} (names : List String) (read? : Json → Option α) : Reader (Option α) :=
  withDefault names (Typing.optional? read?) none

/-- A field that may be null, and absent from an object only. -/
def nullable {α : Type} (names : List String) (read? : Json → Option α) : Reader (Option α) := do
  match ← get, ← next? names with
  | .named _, none => pure none
  | .positional _, none => failure
  | _, some value => liftM (Typing.optional? read? value)

/-- Reads a structure from an object or an array. -/
def read? {α : Type} (fields : Reader α) : Json → Option α
  | .obj pairs => (fields.run (.named pairs)).map (·.1)
  | .arr items => do
    match ← fields.run (.positional items) with
    | (value, .positional []) => some value
    | _ => none
  | _ => none

/-- A map of named values as a list of pairs; of equal names the last one counts. -/
def mapOf? {α : Type} (read? : Json → Option α) : Json → Option (List (String × α))
  | .obj pairs => do
    let entries ← pairs.mapM fun (name, value) ↦ (read? value).map (name, ·)
    some (entries.foldl (fun kept e ↦ kept.filter (·.1 != e.1) ++ [e]) [])
  | _ => none

end TradingDesk.Record
