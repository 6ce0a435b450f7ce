import TradingDesk.Json.Value

/-!
# TOML Documents

A document is a tree of tables.  A table comes from a header, from being passed on the way to
another table, or from a dotted key, and this decides what may still be added: a header may name a
table that was only passed, but no table a second time, and a dotted key adds to tables of dotted
keys alone.  A list of tables grows by one table with each of its headers, and its last table is the
one that later names refer to.
-/

namespace TradingDesk.Toml

/-- How a table came to be. -/
inductive Origin where
  | header
  | passed
  | dotted
deriving DecidableEq, Repr

/-- A part of a document. -/
inductive Node where
  | value (j : Json)
  | table (origin : Origin) (entries : List (String × Node))
  | tables (items : List Node)

namespace Node

/-- A document without entries. -/
def empty : Node :=
  .table .header []

/-- Entries with another part under a name that they hold. -/
def replace (entries : List (String × Node)) (name : String) (node : Node) :
    List (String × Node) :=
  entries.map fun entry ↦ if entry.1 = name then (name, node) else entry

/-- Changes the table at the end of a path, and makes the tables on the way that are missing. -/
def atPath? (dotted : Bool) (change? : Node → Option Node) : List String → Node → Option Node
  | [], node => change? node
  | name :: path, .table origin entries => do
    let inner := atPath? dotted change? path
    match entries.lookup name with
    | none =>
      let child ← inner (.table (if dotted then .dotted else .passed) [])
      some (.table origin (entries ++ [(name, child)]))
    | some (.value _) => none
    | some (.tables items) =>
      let child ← inner (← items.getLast?)
      some (.table origin (replace entries name (.tables (items.dropLast ++ [child]))))
    | some (.table childOrigin childEntries) =>
      if dotted && childOrigin == .header then none
      else
        let child ← inner (.table childOrigin childEntries)
        some (.table origin (replace entries name child))
  | _ :: _, _ => none

/-- Opens a table by its header. -/
def openTable? (name : String) : Node → Option Node
  | .table origin entries =>
    match entries.lookup name with
    | none => some (.table origin (entries ++ [(name, .table .header [])]))
    | some (.table .passed inner) =>
      some (.table origin (replace entries name (.table .header inner)))
    | some _ => none
  | _ => none

/-- Adds a table to a list of tables by its header. -/
def extendTables? (name : String) : Node → Option Node
  | .table origin entries =>
    match entries.lookup name with
    | none => some (.table origin (entries ++ [(name, .tables [.table .header []])]))
    | some (.tables items) =>
      some (.table origin (replace entries name (.tables (items ++ [.table .header []]))))
    | some _ => none
  | _ => none

/-- Adds a value to a table that was reached by a dotted key or directly. -/
def addValue? (viaDots : Bool) (name : String) (j : Json) : Node → Option Node
  | .table origin entries =>
    if (origin == .dotted) != viaDots || entries.any (·.1 == name) then none
    else some (.table origin (entries ++ [(name, .value j)]))
  | _ => none

/-- A path without its last name, and that name. -/
def splitLast? (path : List String) : Option (List String × String) :=
  path.getLast?.map (path.dropLast, ·)

/-- Sets a value by a dotted key. -/
def set? (key : List String) (j : Json) (node : Node) : Option Node := do
  let (path, name) ← splitLast? key
  node.atPath? true (addValue? (!path.isEmpty) name j) path

/-- Opens a table by the path of its header. -/
def openAt? (header : List String) (node : Node) : Option Node := do
  let (path, name) ← splitLast? header
  node.atPath? false (openTable? name) path

/-- Adds to a list of tables by the path of its header. -/
def extendAt? (header : List String) (node : Node) : Option Node := do
  let (path, name) ← splitLast? header
  node.atPath? false (extendTables? name) path

/-! ## Data -/

mutual

/-- The data of a part. -/
def toJson : Node → Json
  | .value j => j
  | .table _ entries => .obj (entriesJson entries)
  | .tables items => .arr (itemsJson items)

/-- The data of entries. -/
def entriesJson : List (String × Node) → List (String × Json)
  | [] => []
  | (name, node) :: rest => (name, toJson node) :: entriesJson rest

/-- The data of tables. -/
def itemsJson : List Node → List Json
  | [] => []
  | node :: rest => toJson node :: itemsJson rest

end

end Node

end TradingDesk.Toml
