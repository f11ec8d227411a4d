/-!
# Classes of characters as ranges

A class of characters is given by closed ranges of code points.

* `inRanges`: membership of a character in such a list.
-/

namespace Playbill

/-- Whether the code point of `c` lies in one of the closed ranges. -/
def inRanges (ranges : List (Nat × Nat)) (c : Char) : Bool :=
  ranges.any fun range => range.1 ≤ c.toNat && c.toNat ≤ range.2

end Playbill
