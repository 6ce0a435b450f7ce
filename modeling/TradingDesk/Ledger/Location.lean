import TradingDesk.Json.Reader

/-!
# Ledger Locations

The address of a ledger names a file, after an optional scheme, or memory that lasts as long as the
program runs.  Parameters after a question mark say how the file is opened: whether it may be
created, and whether it may be written.  An unknown parameter makes the address invalid.
-/

namespace TradingDesk.Ledger

/-- Where a ledger is kept and how it is opened. -/
structure Location where
  path : String
  inMemory : Bool
  create : Bool
  readOnly : Bool
deriving DecidableEq, Repr

namespace Location

/-- The text after all repetitions of a start; the start has to be nonempty. -/
def afterAll (start : List Char) : (fuel : Nat) → List Char → List Char
  | 0, cs => cs
  | fuel + 1, cs =>
    if start.isPrefixOf cs then afterAll start fuel (cs.drop start.length) else cs

/-- The address without its scheme. -/
def withoutScheme (address : String) : List Char :=
  let cs := address.toList
  let cs := afterAll "sqlite://".toList cs.length cs
  afterAll "sqlite:".toList cs.length cs

/-- The bytes of a text in which percent signs stand before two hexadecimal digits. -/
def percentBytes : List Char → List UInt8
  | [] => []
  | '%' :: a :: b :: rest =>
    match Json.hexValue? a, Json.hexValue? b with
    | some high, some low => UInt8.ofNat (16 * high + low) :: percentBytes rest
    | _, _ => 37 :: percentBytes (a :: b :: rest)
  | c :: rest => (String.singleton c).toUTF8.data.toList ++ percentBytes rest
termination_by cs => cs.length

/-- The text that a text in percent form stands for. -/
def decode? (cs : List Char) : Option String :=
  String.fromUTF8? ⟨(percentBytes cs).toArray⟩

/-- Divides a text at the first occurrence of a character. -/
def divide (c : Char) (cs : List Char) : List Char × List Char :=
  (cs.takeWhile (· ≠ c), (cs.dropWhile (· ≠ c)).drop 1)

/-- The location after one more parameter. -/
def withParameter? (l : Location) (name value : String) : Option Location :=
  match name, value with
  | "mode", "ro" => some { l with readOnly := true }
  | "mode", "rw" => some l
  | "mode", "rwc" => some { l with create := true }
  | "mode", "memory" => some { l with inMemory := true }
  | "cache", "private" | "cache", "shared" => some l
  | "immutable", "true" | "immutable", "1" => some { l with readOnly := true }
  | "immutable", "false" | "immutable", "0" => some l
  | _, _ => none

/-- The location that an address gives. -/
def parse? (address : String) : Option Location := do
  let (name, parameters) := divide '?' (withoutScheme address)
  let path ← decode? name
  let start : Location := ⟨path, path.isEmpty || path = ":memory:", false, false⟩
  let parts := (String.ofList parameters).splitOn "&"
  (parts.filter fun part ↦ !part.isEmpty).foldlM
    (fun l part ↦ do
      let (name, value) := divide '=' part.toList
      l.withParameter? (← decode? name) (← decode? value))
    start

end Location

end TradingDesk.Ledger
