/-!
Sets of characters given by code point ranges. A property of Unicode is a table
of such ranges in ascending order, and membership is a search through it.
-/

namespace JsonQuery.Text

/-- All code points from `first` to `last`, both included. -/
structure CodeRange where
  first : Nat
  last : Nat

/-- Whether the range holds this code point. -/
def CodeRange.contains (range : CodeRange) (code : Nat) : Bool :=
  range.first ≤ code && code ≤ range.last

/-- Whether some range of the table holds the character. -/
def CodeRange.anyContains (table : List CodeRange) (c : Char) : Bool :=
  table.any fun range => range.contains c.toNat

end JsonQuery.Text
