/-!
# Sets of characters given by ranges
-/

namespace TestHistory.Text

/-- The code point lies in one of the ranges, both ends included. -/
def inRanges (ranges : List (Nat × Nat)) (c : Char) : Bool :=
  ranges.any fun range => range.1 ≤ c.toNat && c.toNat ≤ range.2

end TestHistory.Text
