/-!
# Classes of characters

A class of characters is a list of ranges of code points.  Membership is decided range by range, so
a class can be read off a table of the standard that defines it.
-/

namespace TextAdventure.Text

/-- The code points from `first` to `last`, both included. -/
structure CodeRange where
  /-- The least code point of the range. -/
  first : Nat
  /-- The greatest code point of the range. -/
  last : Nat
  deriving DecidableEq, Repr

namespace CodeRange

/-- A code point lies in the range. -/
def covers (range : CodeRange) (code : Nat) : Bool :=
  range.first ≤ code && code ≤ range.last

/-- A character lies in one of the ranges. -/
def holds (ranges : List CodeRange) (c : Char) : Bool :=
  ranges.any fun range => range.covers c.toNat

end CodeRange

end TextAdventure.Text
