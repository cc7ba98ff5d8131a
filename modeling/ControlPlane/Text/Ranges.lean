/-!
# Ranges of Characters

A property of characters is kept as the ranges of code points that have it.

## Main definitions

* `inRanges`: A code point lies in one of some ranges.
-/

namespace ControlPlane

namespace Text

/-- The code point lies in one of the ranges, ends included. -/
def inRanges (ranges : List (Nat × Nat)) (code : Nat) : Bool :=
  ranges.any fun range => range.1 ≤ code && code ≤ range.2

end Text

end ControlPlane
