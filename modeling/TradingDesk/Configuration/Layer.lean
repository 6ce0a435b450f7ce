import TradingDesk.Json.Reader
import TradingDesk.Toml.Reader

/-!
# Configuration Layers

A layer is a table of settings from one source, and a later layer overrides an earlier one.  Tables
are merged name by name, and anything else, lists included, is replaced.  A value becomes a table
when a name is set below it.

The outermost names of a layer may be paths: names with points between them and indices of list
items in brackets.  A name that is no such path stands for itself.
-/

namespace TradingDesk.Configuration.Layer

/-! ## Merging -/

/-- The value under a name, null when there is none. -/
def field (name : String) (j : Json) : Json :=
  (j.field? name).getD .null

/-- Sets the value under a name, in a new table when there was none. -/
def setField (name : String) (value : Json) : Json → Json
  | .obj fields =>
    if fields.any (·.1 == name) then
      .obj (fields.map fun f ↦ if f.1 = name then (name, value) else f)
    else .obj (fields ++ [(name, value)])
  | _ => .obj [(name, value)]

mutual

/-- Lays a value over another one; an empty table takes the place of a null. -/
def overlay : (incoming base : Json) → Json
  | .obj [], .null => .obj []
  | .obj fields, base => overlayFields fields base
  | incoming, _ => incoming

/-- Lays named values over a value, one after another. -/
def overlayFields : (incoming : List (String × Json)) → (base : Json) → Json
  | [], base => base
  | (name, value) :: rest, base =>
    overlayFields rest (setField name (overlay value (field name base)) base)

end

/-! ## Paths -/

/-- A step of a path: to a name of a table or to an item of a list. -/
inductive Step where
  | name (name : String)
  | item (index : Int)
deriving DecidableEq, Repr

/-- The items of a list up to an index, with nulls in place of missing ones.  A negative index
counts from the end, and one before the beginning adds nulls in front. -/
def reach (items : List Json) (index : Int) : List Json × Nat :=
  if 0 ≤ index then
    let missing := index.toNat + 1 - items.length
    (items ++ List.replicate missing .null, index.toNat)
  else
    let missing := index.natAbs - items.length
    (List.replicate missing .null ++ items, items.length + missing - index.natAbs)

/-- Lays a value over what is found at the end of a path. -/
def setAt : List Step → (value base : Json) → Json
  | [], value, base => overlay value base
  | .name n :: path, value, base => setField n (setAt path value (field n base)) base
  | .item i :: path, value, base =>
    let (items, index) := reach (base.items?.getD []) i
    .arr (items.modify index (setAt path value))

/-- Whether a character may stand in a name of a path. -/
def isNameChar (c : Char) : Bool :=
  c.isAlphanum || c == '_' || c == '-'

/-- Reads a name of a path. -/
def name? (cs : List Char) : Option (Step × List Char) :=
  let word := cs.takeWhile isNameChar
  if word.isEmpty then none
  else some (.name (String.ofList word), cs.dropWhile isNameChar)

/-- Reads an index of a path after its opening bracket. -/
def index? (cs : List Char) : Option (Step × List Char) :=
  let (negative, digits) := match cs with
    | '-' :: rest => (true, rest)
    | rest => (false, rest)
  let word := digits.takeWhile Binary64.isDigit
  match digits.dropWhile Binary64.isDigit with
  | ']' :: rest =>
    if word.isEmpty then none
    else
      let n : Int := Binary64.digitsValue word
      some (.item (if negative then -n else n), rest)
  | _ => none

/-- Reads the steps of a path after its first name. -/
def steps? : (fuel : Nat) → List Char → Option (List Step)
  | _, [] => some []
  | 0, _ => none
  | fuel + 1, c :: cs => do
    let (step, rest) ← if c = '.' then name? cs else if c = '[' then index? cs else none
    let steps ← steps? fuel rest
    some (step :: steps)

/-- The path that a name stands for. -/
def path (name : String) : List Step :=
  let cs := name.toList
  let parsed : Option (List Step) := do
    let (first, rest) ← name? cs
    let steps ← steps? cs.length rest
    some (first :: steps)
  parsed.getD [.name name]

/-- Lays a layer over a base. -/
def apply (base : Json) (layer : List (String × Json)) : Json :=
  layer.foldl (fun base (name, value) ↦ setAt (path name) value base) base

/-! ## Files -/

/-- The forms of a configuration file. -/
inductive Format where
  | toml
  | json
deriving DecidableEq, Repr

/-- The forms by the ends of file names. -/
def Format.extensions : List (String × Format) :=
  [("toml", .toml), ("json", .json)]

/-- Reads the layer that a file holds; its value has to be a table. -/
def parse? (format : Format) (text : String) : Option (List (String × Json)) := do
  let j ← match format with
    | .toml => Toml.parse? text
    | .json => (Json.parse? text).map Json.lastFields
  match j with
  | .obj fields => some fields
  | _ => none

end TradingDesk.Configuration.Layer
