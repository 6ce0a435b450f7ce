/-!
# Request Addresses

The target of a request is the path and the query of its address.  Characters that an address cannot
hold are written as bytes in hexadecimal digits after a percent sign, steps to the parent and to the
same place are taken out of the path, and what follows a number sign is not part of the request.
-/

namespace TradingDesk.Gateway.Address

/-- The two digits of a byte. -/
def hexByte (b : UInt8) : List Char :=
  let digit (n : Nat) : Char := (Nat.digitChar n).toUpper
  [digit (b.toNat / 16), digit (b.toNat % 16)]

/-- A character as the bytes of its encoding after percent signs. -/
def percentChar (c : Char) : List Char :=
  (String.ofList [c]).toUTF8.data.toList.flatMap fun b ↦ '%' :: hexByte b

/-- Writes the characters that are unsafe, or not plain, in percent form. -/
def escape (unsafe' : List Char) (cs : List Char) : List Char :=
  cs.flatMap fun c ↦
    if c.toNat ≤ 31 ∨ 126 < c.toNat ∨ unsafe'.contains c then percentChar c else [c]

/-- The characters that a query cannot hold. -/
def unsafeInQuery : List Char := [' ', '"', '#', '<', '>', '\'']

/-- The characters that a path cannot hold. -/
def unsafeInPath : List Char :=
  [' ', '"', '#', '<', '>', '?', '^', '\x60', '\x7b', '\x7d']

/-- The parts of a path between its slashes. -/
def segments (cs : List Char) : List (List Char) :=
  cs.foldr (fun c parts ↦
    match parts with
    | [] => [[c]]
    | part :: rest => if c = '/' ∨ c = '\\' then [] :: part :: rest else (c :: part) :: rest) [[]]

/-- Whether a segment stays in its place, in one of its spellings. -/
def isHere (segment : List Char) : Bool :=
  ["", ".", "%2e"].contains (String.ofList (segment.map Char.toLower)) && !segment.isEmpty

/-- Whether a segment goes to the parent, in one of its spellings. -/
def isParent (segment : List Char) : Bool :=
  ["..", ".%2e", "%2e.", "%2e%2e"].contains (String.ofList (segment.map Char.toLower))

/-- Takes steps to the parent and to the same place out of the segments of a path. -/
def normalize (done : List (List Char)) : List (List Char) → List (List Char)
  | [] => done.reverse
  | [last] =>
    if isParent last then ([] :: done.drop 1).reverse
    else if isHere last then ([] :: done).reverse
    else (last :: done).reverse
  | part :: rest =>
    if isParent part then normalize (done.drop 1) rest
    else if isHere part then normalize done rest
    else normalize (part :: done) rest

/-- The path of an address after its host. -/
def path (cs : List Char) : List Char :=
  let parts := segments (match cs with
    | '/' :: rest => rest
    | '\\' :: rest => rest
    | rest => rest)
  (normalize [] parts).flatMap fun part ↦ '/' :: escape unsafeInPath part

/-- The characters of an address without breaks and surrounding blanks. -/
def clean (address : String) : List Char :=
  let isEdge (c : Char) : Bool := c.toNat ≤ 32
  let cs := (address.toList.dropWhile isEdge).reverse.dropWhile isEdge |>.reverse
  cs.filter fun c ↦ c ≠ '\t' ∧ c ≠ '\n' ∧ c ≠ '\r'

/-- What follows the host of an address. -/
def afterHost (cs : List Char) : List Char :=
  let rest := (cs.dropWhile (· ≠ ':')).drop 3
  rest.dropWhile fun c ↦ c ≠ '/' ∧ c ≠ '\\' ∧ c ≠ '?' ∧ c ≠ '#'

/-- The target of a request to an address. -/
def target (address : String) : String :=
  let cs := (afterHost (clean address)).takeWhile (· ≠ '#')
  let query := match cs.dropWhile (· ≠ '?') with
    | [] => []
    | _ :: rest => '?' :: escape unsafeInQuery rest
  String.ofList (path (cs.takeWhile (· ≠ '?')) ++ query)

end TradingDesk.Gateway.Address
