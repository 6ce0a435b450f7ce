/-!
# Layout of Lines

Tables are laid out in columns of a fixed width, counted in characters.  A cell that is wider than
its column keeps its full text, unless it is shortened first.
-/

namespace TradingDesk.Text

/-- The text at the left of a column. -/
def alignLeft (width : Nat) (s : String) : String :=
  s ++ String.ofList (List.replicate (width - s.length) ' ')

/-- The text at the right of a column. -/
def alignRight (width : Nat) (s : String) : String :=
  String.ofList (List.replicate (width - s.length) ' ') ++ s

/-- The text, or its beginning and three points when it has too many characters. -/
def shorten (limit : Nat) (s : String) : String :=
  if s.length ≤ limit then s
  else String.ofList (s.toList.take (limit - 3)) ++ "..."

/-- A line of dashes. -/
def dashes (width : Nat) : String :=
  String.ofList (List.replicate width '-')

end TradingDesk.Text
