import TradingDesk.Table
import TradingDesk.Text.Blank

/-!
# Assignments of Variables

A file can assign variables that the environment does not set, one `name=value` a line, with an
optional word `export` in front.  Values are plain, or quoted singly or doubly; a backslash escapes
quotes, dollar signs, backslashes and blanks, and a dollar sign puts in the value of another
variable unless it stands in single quotes.  A number sign after a blank begins a comment, and an
open quote goes on over the end of its line.

The file is read up to the first line that is malformed.
-/

namespace TradingDesk.Configuration.Assignments

/-! ## Lines -/

/-- What an end of line would be inside of. -/
inductive Mode where
  | plain
  | blank
  | escaped
  | single
  | singleEscaped
  | double
  | doubleEscaped
deriving DecidableEq, Repr

/-- The mode after a character outside of quotes. -/
def Mode.afterPlain : Char → Mode
  | '\\' => escaped
  | '"' => double
  | '\'' => single
  | _ => plain

/-- The mode after a character, or nothing when it begins a comment. -/
def Mode.next? : Mode → Char → Option Mode
  | plain, c =>
    if Text.isBlank c && c != '\n' && c != '\r' then some blank else some (afterPlain c)
  | blank, c => if c = '#' then none else some (afterPlain c)
  | escaped, _ => some plain
  | single, c => some (if c = '\\' then singleEscaped else if c = '\'' then plain else single)
  | singleEscaped, _ => some single
  | double, c => some (if c = '\\' then doubleEscaped else if c = '"' then plain else double)
  | doubleEscaped, _ => some double

/-- The part of a line before a comment, and the mode at its end when there is no comment. -/
def content : Mode → List Char → List Char × Option Mode
  | mode, [] => ([], some mode)
  | mode, c :: cs =>
    match mode.next? c with
    | none => ([], none)
    | some mode =>
      let (kept, final) := content mode cs
      (c :: kept, final)

/-- The lines of a text, each with its line break. -/
def lines (cs : List Char) : List (List Char) :=
  cs.foldr (fun c lines ↦
    match lines with
    | [] => [[c]]
    | line :: rest => if c = '\n' then [c] :: line :: rest else (c :: line) :: rest) []

/-- A line without its line break. -/
def withoutBreak (line : List Char) : List Char :=
  match line.reverse with
  | '\n' :: '\r' :: rest => rest.reverse
  | '\n' :: rest => rest.reverse
  | _ => line

/-- Joins lines on which a quote is open.  The end of the text must not be inside of anything. -/
def joined (mode : Mode) (begun : List Char) : List (List Char) → List (Option (List Char))
  | [] => if mode = .plain then [] else [none]
  | line :: rest =>
    if (Text.trimStart (begun ++ line)).head? = some '#' then
      some [] :: joined .plain [] rest
    else match content mode line with
      | (kept, none) => some (begun ++ kept) :: joined .plain [] rest
      | (kept, some .plain) => some (withoutBreak (begun ++ kept)) :: joined .plain [] rest
      | (kept, some mode) => joined mode (begun ++ kept) rest

/-! ## Values -/

/-- The name of another variable that is being read. -/
inductive Reference where
  | absent
  | bare (name : List Char)
  | braced (name : List Char)

/-- What a reader of a value has read, and where it stands. -/
structure Value where
  output : List Char
  single : Bool
  double : Bool
  escaped : Bool
  ended : Bool
  reference : Reference

namespace Value

/-- Nothing read yet. -/
def start : Value := ⟨[], false, false, false, false, .absent⟩

/-- Puts a character at the end. -/
def push (v : Value) (c : Char) : Value :=
  { v with output := v.output ++ [c] }

/-- Puts the value of a variable at the end; an unknown one is empty. -/
def refer (v : Value) (environment : Table String) (name : List Char) : Value :=
  let text := (environment.find? (String.ofList name)).getD ""
  { v with output := v.output ++ text.toList, reference := .absent }

/-- Reads a character after a backslash. -/
def unescape? (v : Value) (c : Char) : Option Value :=
  let v := { v with escaped := false }
  if ['\\', '\'', '"', '$', ' '].contains c then some (v.push c)
  else if c = 'n' then some (v.push '\n')
  else none

/-- Reads a character of the name of another variable. -/
def readReference (v : Value) (environment : Table String) (c : Char) : Value :=
  match v.reference with
  | .absent => v
  | .bare name =>
    if c.isAlphanum then { v with reference := .bare (name ++ [c]) }
    else if c = '\x7b' ∧ name.isEmpty then { v with reference := .braced [] }
    else
      let v := v.refer environment name
      if c = '$' then { v with reference := .bare [] } else v.push c
  | .braced name =>
    if c = '\x7d' then v.refer environment name
    else { v with reference := .braced (name ++ [c]) }

/-- Reads a character that is neither escaped nor in single quotes nor in a name. -/
def readOpen (v : Value) (c : Char) : Value :=
  if c = '$' then { v with reference := .bare [] }
  else if c = '\\' then { v with escaped := true }
  else if c = '"' then { v with double := !v.double }
  else if v.double then v.push c
  else if c = '\'' then { v with single := true }
  else if c = ' ' ∨ c = '\t' then { v with ended := true }
  else v.push c

/-- Reads one more character. -/
def read? (v : Value) (environment : Table String) (c : Char) : Option Value :=
  if v.escaped then v.unescape? c
  else if v.single then some (if c = '\'' then { v with single := false } else v.push c)
  else match v.reference with
    | .absent => some (v.readOpen c)
    | _ => some (v.readReference environment c)

/-- Reads characters; after the value only blanks and a comment may follow. -/
def readAll? (environment : Table String) : Value → List Char → Option Value
  | v, [] => some v
  | v, c :: cs =>
    if v.ended then
      if c = ' ' ∨ c = '\t' then readAll? environment v cs
      else if c = '#' then some v
      else none
    else do
      readAll? environment (← v.read? environment c) cs

/-- The text of a value at its end; quotes and braces have to be closed. -/
def text? (v : Value) (environment : Table String) : Option String :=
  if v.single || v.double then none
  else match v.reference with
    | .absent => some (String.ofList v.output)
    | .bare name => some (String.ofList (v.refer environment name).output)
    | .braced _ => none

end Value

/-! ## Assignments -/

/-- Reads the name of a variable. -/
def name? (cs : List Char) : Option (String × List Char) :=
  let isPart (c : Char) : Bool := c.isAlphanum || c == '_' || c == '.'
  match cs with
  | [] => none
  | c :: _ =>
    if c.isAlpha || c == '_' then some (String.ofList (cs.takeWhile isPart), cs.dropWhile isPart)
    else none

/-- What follows an equals sign. -/
def afterEquals? (cs : List Char) : Option (List Char) :=
  match Text.trimStart cs with
  | '=' :: rest => some (Text.trimStart rest)
  | _ => none

/-- The assignment of a line, if it has one; a malformed line gives nothing at all. -/
def assignment? (environment : Table String) (line : List Char) :
    Option (Option (String × String)) := do
  let cs := Text.trimStart line
  if cs.isEmpty ∨ cs.head? = some '#' then
    return none
  let (word, rest) ← name? cs
  let (name, value) ← match afterEquals? rest with
    | some value => some (word, value)
    | none =>
      if word = "export" then do
        let (name, rest) ← name? (Text.trimStart rest)
        some (name, ← afterEquals? rest)
      else none
  if value.isEmpty ∨ value.head? = some '#' then
    return some (name, "")
  let v ← Value.start.readAll? environment value
  return some (name, ← v.text? environment)

/-- The variables with those that lines assign and that are not set already. -/
def extend (environment : Table String) : List (Option (List Char)) → Table String
  | some line :: rest =>
    match assignment? environment line with
    | some (some (name, value)) =>
      let isSet := (environment.find? name).isSome
      extend (if isSet then environment else environment.insert name value) rest
    | some none => extend environment rest
    | none => environment
  | _ => environment

/-- The variables with those that a file assigns. -/
def apply (environment : Table String) (text : String) : Table String :=
  let cs := match text.toList with
    | '\ufeff' :: rest => rest
    | cs => cs
  extend environment (joined .plain [] (lines cs))

end TradingDesk.Configuration.Assignments
