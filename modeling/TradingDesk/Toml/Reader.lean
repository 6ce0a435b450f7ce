import TradingDesk.Toml.Document
import TradingDesk.Toml.Literal

/-!
# Reading TOML

A document is a sequence of lines: headers, entries and empty lines, each with an optional comment.
An entry belongs to the table of the last header.  Arrays may run over several lines, tables inside
of braces may not, and nothing can be added to either afterwards.
-/

namespace TradingDesk.Toml

/-! ## Lines -/

/-- The characters after a comment, when there is one. -/
def skipComment? : List Char → Option (List Char)
  | '#' :: rest =>
    let after := rest.dropWhile isPlain
    match after with
    | [] => some []
    | '\n' :: _ => some after
    | _ => none
  | rest => some rest

/-- The characters after the end of a line. -/
def endLine? (cs : List Char) : Option (List Char) := do
  match ← skipComment? (skipBlanks cs) with
  | [] => some []
  | '\n' :: rest => some rest
  | _ => none

/-- The characters after blanks, comments and line breaks. -/
def skipLines? : (fuel : Nat) → List Char → Option (List Char)
  | 0, _ => none
  | fuel + 1, cs =>
    match skipBlanks cs with
    | '#' :: rest => (skipComment? ('#' :: rest)).bind (skipLines? fuel)
    | '\n' :: rest => skipLines? fuel rest
    | rest => some rest

/-! ## Keys -/

/-- Whether a character may stand in a key without quotes. -/
def isKeyChar (c : Char) : Bool :=
  c.isAlphanum || c == '-' || c == '_'

/-- Reads one name of a key. -/
def name? (cs : List Char) : Option (String × List Char) :=
  match cs with
  | '"' :: _ | '\'' :: _ => lineString? cs
  | _ =>
    let word := cs.takeWhile isKeyChar
    if word.isEmpty then none else some (String.ofList word, cs.dropWhile isKeyChar)

/-- Reads a key of names with dots between them, and the blanks around them. -/
def key? : (fuel : Nat) → List Char → Option (List String × List Char)
  | 0, _ => none
  | fuel + 1, cs => do
    let (name, rest) ← name? (skipBlanks cs)
    match skipBlanks rest with
    | '.' :: rest => (key? fuel rest).map fun (names, rest) ↦ (name :: names, rest)
    | rest => some ([name], rest)

/-! ## Values -/

mutual

/-- Reads a value. -/
def value? : (fuel : Nat) → List Char → Option (Json × List Char)
  | 0, _ => none
  | fuel + 1, cs =>
    match cs with
    | '"' :: _ | '\'' :: _ => (string? cs).map fun (s, rest) ↦ (.str s, rest)
    | '[' :: rest => (items? fuel rest).map fun (items, rest) ↦ (.arr items, rest)
    | '\x7b' :: rest =>
      match skipBlanks rest with
      | '\x7d' :: rest => some (.obj [], rest)
      | rest => (members? fuel Node.empty rest).map fun (node, rest) ↦ (node.toJson, rest)
    | _ => wordLiteral? cs

/-- Reads the items of an array up to its closing bracket. -/
def items? : (fuel : Nat) → List Char → Option (List Json × List Char)
  | 0, _ => none
  | fuel + 1, cs => do
    match ← skipLines? fuel cs with
    | ']' :: rest => some ([], rest)
    | cs =>
      let (item, rest) ← value? fuel cs
      match ← skipLines? fuel rest with
      | ',' :: rest => (items? fuel rest).map fun (items, rest) ↦ (item :: items, rest)
      | ']' :: rest => some ([item], rest)
      | _ => none

/-- Reads the entries of a table in braces up to the closing one. -/
def members? : (fuel : Nat) → Node → List Char → Option (Node × List Char)
  | 0, _, _ => none
  | fuel + 1, node, cs => do
    let (key, rest) ← key? fuel cs
    match rest with
    | '=' :: rest =>
      let (j, rest) ← value? fuel (skipBlanks rest)
      let node ← node.set? key j
      match skipBlanks rest with
      | ',' :: rest => members? fuel node rest
      | '\x7d' :: rest => some (node, rest)
      | _ => none
    | _ => none

end

/-! ## Documents -/

/-- A document while it is read, with the path of the table that entries belong to. -/
structure Draft where
  root : Node
  current : List String

/-- Reads a header after its opening bracket. -/
def header? (fuel : Nat) (d : Draft) (cs : List Char) : Option (Draft × List Char) := do
  match cs with
  | '[' :: cs =>
    match ← key? fuel cs with
    | (path, ']' :: ']' :: rest) => some (⟨← d.root.extendAt? path, path⟩, rest)
    | _ => none
  | cs =>
    match ← key? fuel cs with
    | (path, ']' :: rest) => some (⟨← d.root.openAt? path, path⟩, rest)
    | _ => none

/-- Reads an entry. -/
def entry? (fuel : Nat) (d : Draft) (cs : List Char) : Option (Draft × List Char) := do
  match ← key? fuel cs with
  | (key, '=' :: rest) =>
    let (j, rest) ← value? fuel (skipBlanks rest)
    let root ← d.root.atPath? false (·.set? key j) d.current
    some ({ d with root := root }, rest)
  | _ => none

/-- Reads lines up to the end. -/
def lines? : (fuel : Nat) → Draft → List Char → Option Draft
  | 0, _, _ => none
  | fuel + 1, d, cs => do
    match ← skipLines? (fuel + 1) cs with
    | [] => some d
    | '[' :: rest =>
      let (d, rest) ← header? fuel d rest
      lines? fuel d (← endLine? rest)
    | cs =>
      let (d, rest) ← entry? fuel d cs
      lines? fuel d (← endLine? rest)

/-- Every line break as one character. -/
def unifyBreaks : List Char → List Char
  | '\r' :: '\n' :: rest => '\n' :: unifyBreaks rest
  | c :: rest => c :: unifyBreaks rest
  | [] => []

/-- Reads the table that a document denotes. -/
def parse? (text : String) : Option Json := do
  let cs := unifyBreaks text.toList
  let d ← lines? (2 * cs.length + 2) ⟨Node.empty, []⟩ cs
  some d.root.toJson

end TradingDesk.Toml
