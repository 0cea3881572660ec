/-!
# Sets of characters given by ranges of code points
-/

namespace ArangoQuery

/-- Is the code point in one of the inclusive ranges? -/
def inRanges (ranges : Array (Nat × Nat)) (code : Nat) : Bool :=
  ranges.any fun (first, last) => decide (first ≤ code) && decide (code ≤ last)

end ArangoQuery
