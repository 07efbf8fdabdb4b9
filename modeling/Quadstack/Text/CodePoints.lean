/-!
Sets of characters given by ranges of code points, the form in which character properties
are tabulated.
-/

namespace Quadstack.Text

/-- The code points from `first` to `last`, both included. -/
structure CodePoints where
  first : Nat
  last : Nat

namespace CodePoints

def contains (range : CodePoints) (character : Char) : Bool :=
  range.first ≤ character.toNat && character.toNat ≤ range.last

/-- Whether one of the ranges holds the character. -/
def anyContains (ranges : Array CodePoints) (character : Char) : Bool :=
  ranges.any (·.contains character)

end CodePoints

end Quadstack.Text
