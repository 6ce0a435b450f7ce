import TradingDesk.Calendar.Date
import TradingDesk.Json.Reader

/-!
# TOML Literals

Strings come in four forms: with or without escapes, on one line or on several.  Several lines start
after a first line break, a backslash at the end of a line joins it to the next word, and up to two
quotes may stand before the closing three.

Every other literal is one word: a truth value, a whole number in one of four bases, a number with a
fraction or an exponent, or a date, a time or both.  Underscores may stand between digits.  Whole
numbers have 64 bits with a sign.  Dates and times are kept as text.
-/

namespace TradingDesk.Toml

/-- Blanks inside a line. -/
def isBlank (c : Char) : Bool :=
  c == ' ' || c == '\t'

/-- The characters after leading blanks of a line. -/
def skipBlanks (cs : List Char) : List Char :=
  cs.dropWhile isBlank

/-- Whether a character may stand in a string or a comment as itself. -/
def isPlain (c : Char) : Bool :=
  c == '\t' || (32 ≤ c.toNat && c.toNat != 127)

/-! ## Strings -/

/-- The character of a hexadecimal code, unless it is no character. -/
def codeChar? (digits : List Char) : Option Char := do
  let values ← digits.mapM Json.hexValue?
  let code := values.foldl (fun n d ↦ n * 16 + d) 0
  if h : code.isValidChar then some (Char.ofNatAux code h) else none

/-- Reads a character by its code of so many digits. -/
def code? (width : Nat) (cs : List Char) : Option (Char × List Char) :=
  if cs.length < width then none
  else (codeChar? (cs.take width)).map (·, cs.drop width)

/-- Reads the part of an escape after the backslash. -/
def escape? : List Char → Option (Char × List Char)
  | '"' :: rest => some ('"', rest)
  | '\\' :: rest => some ('\\', rest)
  | 'b' :: rest => some (Char.ofNat 8, rest)
  | 'f' :: rest => some (Char.ofNat 12, rest)
  | 'n' :: rest => some ('\n', rest)
  | 'r' :: rest => some ('\r', rest)
  | 't' :: rest => some ('\t', rest)
  | 'u' :: rest => code? 4 rest
  | 'U' :: rest => code? 8 rest
  | _ => none

/-- Reads a string with escapes after its opening quote. -/
def escaped? : (fuel : Nat) → List Char → Option (List Char × List Char)
  | 0, _ => none
  | _ + 1, [] => none
  | fuel + 1, c :: rest =>
    if c = '"' then some ([], rest)
    else do
      let (c, rest) ←
        if c = '\\' then escape? rest else if isPlain c then some (c, rest) else none
      let (cs, rest) ← escaped? fuel rest
      some (c :: cs, rest)

/-- Reads a string without escapes after its opening quote. -/
def verbatim? : List Char → Option (List Char × List Char)
  | [] => none
  | c :: rest =>
    if c = '\'' then some ([], rest)
    else if isPlain c then (verbatim? rest).map fun (cs, rest) ↦ (c :: cs, rest)
    else none

/-- The quotes in front of a closing three, given the length of the whole run. -/
def closing? (quote : Char) (run : Nat) : Option (List Char) :=
  if run ≤ 5 then some (List.replicate (run - 3) quote) else none

/-- What follows a backslash at the end of a line: the next word. -/
def joined? (cs : List Char) : Option (List Char) :=
  match skipBlanks cs with
  | '\n' :: rest => some (rest.dropWhile fun c ↦ isBlank c || c == '\n')
  | _ => none

/-- Reads a string of several lines after its opening quotes. -/
def multiline? (quote : Char) : (fuel : Nat) → List Char → Option (List Char × List Char)
  | 0, _ => none
  | _ + 1, [] => none
  | fuel + 1, c :: rest =>
    let add (c : Char) (rest : List Char) : Option (List Char × List Char) :=
      (multiline? quote fuel rest).map fun (cs, rest) ↦ (c :: cs, rest)
    if c = quote then
      let run := ((c :: rest).takeWhile (· == quote)).length
      if 3 ≤ run then
        (closing? quote run).map (·, rest.drop (run - 1))
      else add c rest
    else if c = '\\' ∧ quote = '"' then
      match joined? rest with
      | some rest => multiline? quote fuel rest
      | none => (escape? rest).bind fun (c, rest) ↦ add c rest
    else if isPlain c || c == '\n' then add c rest
    else none

/-- The characters after a line break in front. -/
def dropBreak : List Char → List Char
  | '\n' :: rest => rest
  | rest => rest

/-- Reads a string of one line in either form. -/
def lineString? : List Char → Option (String × List Char)
  | '"' :: rest =>
    (escaped? (rest.length + 1) rest).map fun (cs, rest) ↦ (String.ofList cs, rest)
  | '\'' :: rest => (verbatim? rest).map fun (cs, rest) ↦ (String.ofList cs, rest)
  | _ => none

/-- Reads a string in any form. -/
def string? : List Char → Option (String × List Char)
  | '"' :: '"' :: '"' :: rest =>
    (multiline? '"' (rest.length + 1) (dropBreak rest)).map fun (cs, rest) ↦
      (String.ofList cs, rest)
  | '\'' :: '\'' :: '\'' :: rest =>
    (multiline? '\'' (rest.length + 1) (dropBreak rest)).map fun (cs, rest) ↦
      (String.ofList cs, rest)
  | cs => lineString? cs

/-! ## Numbers -/

/-- The digits of a run in which single underscores may stand between digits. -/
def digitRun? (isDigit : Char → Bool) : List Char → Option (List Char)
  | [] => none
  | [c] => if isDigit c then some [c] else none
  | c :: '_' :: rest => if isDigit c then (digitRun? isDigit rest).map (c :: ·) else none
  | c :: rest => if isDigit c then (digitRun? isDigit rest).map (c :: ·) else none

/-- A whole number when it has 64 bits with a sign. -/
def whole? (i : Int) : Option Json :=
  if isWord i then some (.int i) else none

/-- A whole number in another base. -/
def inBase? (base : Nat) (cs : List Char) : Option Json := do
  let value? (c : Char) : Option Nat := (Json.hexValue? c).filter (· < base)
  let digits ← digitRun? (fun c ↦ (value? c).isSome) cs
  whole? (digits.foldl (fun n c ↦ n * base + (value? c).getD 0) 0 : Nat)

/-- Splits an exponent off. -/
def splitExponent (cs : List Char) : List Char × Option (List Char) :=
  let isMark (c : Char) : Bool := c == 'e' || c == 'E'
  match cs.dropWhile (!isMark ·) with
  | [] => (cs, none)
  | _ :: exponent => (cs.takeWhile (!isMark ·), some exponent)

/-- The value of an exponent; none is zero. -/
def exponent? : Option (List Char) → Option Int
  | none => some 0
  | some cs => do
    let (negative, cs) := Decimal.splitSign cs
    let digits ← digitRun? Binary64.isDigit cs
    let n : Int := Binary64.digitsValue digits
    some (if negative then -n else n)

/-- Splits a fraction off. -/
def splitFraction (cs : List Char) : List Char × Option (List Char) :=
  match cs.dropWhile (· != '.') with
  | [] => (cs, none)
  | _ :: fraction => (cs.takeWhile (· != '.'), some fraction)

/-- A decimal number after its sign. -/
def decimal? (negative : Bool) (cs : List Char) : Option Json := do
  let (mantissa, exponent) := splitExponent cs
  let (whole, fraction) := splitFraction mantissa
  let whole ← digitRun? Binary64.isDigit whole
  if whole.head? == some '0' && whole.length != 1 then none
  else if fraction.isNone && exponent.isNone then
    let n : Int := Binary64.digitsValue whole
    whole? (if negative then -n else n)
  else do
    let fraction ← match fraction with
      | none => some []
      | some cs => digitRun? Binary64.isDigit cs
    let e ← exponent? exponent
    let x := Binary64.ofDecimal negative (Binary64.digitsValue (whole ++ fraction))
      (e - fraction.length)
    if x.isFinite then some (.real x) else none

/-- A number. -/
def number? (cs : List Char) : Option Json :=
  match cs with
  | '0' :: 'x' :: digits => inBase? 16 digits
  | '0' :: 'o' :: digits => inBase? 8 digits
  | '0' :: 'b' :: digits => inBase? 2 digits
  | _ =>
    let (negative, rest) := Decimal.splitSign cs
    if rest = ['i', 'n', 'f'] then
      some (.real (if negative then -Binary64.infinity else Binary64.infinity))
    else if rest = ['n', 'a', 'n'] then some (.real Binary64.nan)
    else decimal? negative rest

/-! ## Dates and times -/

/-- Whether characters have a form, in which `d` stands for a digit. -/
def hasForm (form : String) (cs : List Char) : Bool :=
  form.length == cs.length &&
    (form.toList.zip cs).all fun (f, c) ↦ if f = 'd' then Binary64.isDigit c else f == c

/-- The number that some of the characters denote. -/
def numberAt (start length : Nat) (cs : List Char) : Nat :=
  Binary64.digitsValue ((cs.drop start).take length)

/-- Whether characters are a date that exists. -/
def isDate (cs : List Char) : Bool :=
  hasForm "dddd-dd-dd" cs &&
    (Date.ofCivil? ⟨numberAt 0 4 cs, numberAt 5 2 cs, numberAt 8 2 cs⟩).isSome

/-- Whether characters are a time of day to the second. -/
def isClock (cs : List Char) : Bool :=
  hasForm "dd:dd:dd" cs && numberAt 0 2 cs < 24 && numberAt 3 2 cs < 60 && numberAt 6 2 cs ≤ 60

/-- Whether characters are an offset from UTC. -/
def isOffset (cs : List Char) : Bool :=
  cs == ['Z'] || cs == ['z'] ||
    ((hasForm "+dd:dd" cs || hasForm "-dd:dd" cs) && numberAt 1 2 cs < 24 && numberAt 4 2 cs < 60)

/-- The characters of a time after an optional fraction of a second. -/
def afterFraction? : List Char → Option (List Char)
  | '.' :: rest =>
    if (rest.takeWhile Binary64.isDigit).isEmpty then none
    else some (rest.dropWhile Binary64.isDigit)
  | rest => some rest

/-- Whether characters are a time of day, and with an offset only where one may stand. -/
def isTime (offset : Bool) (cs : List Char) : Bool :=
  isClock (cs.take 8) &&
    match afterFraction? (cs.drop 8) with
    | some [] => true
    | some rest => offset && isOffset rest
    | none => false

/-- The text of a date, a time or both. -/
def moment? (cs : List Char) : Option Json :=
  if isDate cs || isTime false cs then some (.str (String.ofList cs))
  else
    match cs.drop 10 with
    | 'T' :: time | 't' :: time | ' ' :: time =>
      if isDate (cs.take 10) && isTime true time then
        some (.str (String.ofList (cs.take 10 ++ 'T' :: time.map Char.toUpper)))
      else none
    | _ => none

/-! ## Words -/

/-- Whether a character belongs to a word. -/
def isWordChar (c : Char) : Bool :=
  c.isAlphanum || c == '+' || c == '-' || c == '_' || c == '.' || c == ':'

/-- The value of a word. -/
def word? (cs : List Char) : Option Json :=
  if cs = ['t', 'r', 'u', 'e'] then some (.bool true)
  else if cs = ['f', 'a', 'l', 's', 'e'] then some (.bool false)
  else (number? cs).or (moment? cs)

/-- Reads a literal that is one word, or a date and a time with a blank between them. -/
def wordLiteral? (cs : List Char) : Option (Json × List Char) :=
  let word := cs.takeWhile isWordChar
  let rest := cs.dropWhile isWordChar
  match rest with
  | ' ' :: next =>
    let time := next.takeWhile isWordChar
    if isDate word && hasForm "dd:" (time.take 3) then
      (word? (word ++ ' ' :: time)).map (·, next.dropWhile isWordChar)
    else (word? word).map (·, rest)
  | _ => (word? word).map (·, rest)

end TradingDesk.Toml
