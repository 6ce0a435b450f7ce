import TradingDesk.Table

/-!
# Words of a Command Line

A word is plain, or begins an option by a long name after two dashes or by a letter after one.  The
value of an option is the word after it, which has to be plain, or stands in the same word: after an
equals sign, or directly after the letter.  A dash alone is a plain word.

Options come before the first plain word, each of them once.  Two dashes alone end them, and nothing
may follow.
-/

namespace TradingDesk.CommandLine

/-- Why words are not carried out: they are misused, or they ask for help. -/
inductive Refusal where
  | misuse
  | help
deriving DecidableEq, Repr

/-- An option of a command. -/
structure Switch where
  name : String
  letter : Option Char
  hasValue : Bool
deriving DecidableEq, Repr

namespace Switch

/-- An option with a value and no letter. -/
def named (name : String) : Switch := ⟨name, none, true⟩

/-- An option with a value and a letter. -/
def lettered (name : String) (letter : Char) : Switch := ⟨name, some letter, true⟩

/-- An option without a value. -/
def flag (name : String) : Switch := ⟨name, none, false⟩

end Switch

/-- The forms of words. -/
inductive Word where
  | plain
  | divider
  | named (name : String) (value : Option String)
  | lettered (letter : Char) (value : Option String)
deriving DecidableEq, Repr

namespace Word

/-- The form of a word. -/
def ofChars : List Char → Word
  | ['-', '-'] => divider
  | '-' :: '-' :: cs =>
    let value := match cs.dropWhile (· ≠ '=') with
      | [] => none
      | _ :: rest => some (String.ofList rest)
    named (String.ofList (cs.takeWhile (· ≠ '='))) value
  | ['-', letter] => lettered letter none
  | '-' :: letter :: '=' :: cs => lettered letter (some (String.ofList cs))
  | '-' :: letter :: cs => lettered letter (some (String.ofList cs))
  | _ => plain

/-- The option that a word begins. -/
def switch? (switches : List Switch) : Word → Option Switch
  | named name _ => switches.find? fun s ↦ s.name == name
  | lettered letter _ => switches.find? fun s ↦ s.letter == some letter
  | _ => none

/-- The value in a word. -/
def value : Word → Option String
  | named _ value => value
  | lettered _ value => value
  | _ => none

/-- Why a word that begins no known option is refused. -/
def refusal : Word → Refusal
  | named "help" none => .help
  | lettered 'h' _ => .help
  | _ => .misuse

end Word

/-- The options at the beginning of words, by their names, and the words after them. -/
def options (switches : List Switch) (found : Table String) :
    List String → Except Refusal (Table String × List String)
  | [] => .ok (found, [])
  | text :: rest =>
    let word := Word.ofChars text.toList
    match word with
    | .plain => .ok (found, text :: rest)
    | .divider => if rest.isEmpty then .ok (found, []) else .error .misuse
    | _ =>
      match word.switch? switches with
      | none => .error word.refusal
      | some s =>
        if (found.find? s.name).isSome then .error .misuse
        else match s.hasValue, word.value, rest with
          | true, some value, rest => options switches (found.insert s.name value) rest
          | true, none, value :: rest =>
            if Word.ofChars value.toList = .plain then
              options switches (found.insert s.name value) rest
            else .error .misuse
          | false, none, rest => options switches (found.insert s.name "") rest
          | _, _, _ => .error .misuse

end TradingDesk.CommandLine
