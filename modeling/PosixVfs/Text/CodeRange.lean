/-!
# Text/CodeRange — sets of characters given by ranges

A property of characters is a list of ranges of code points, both ends included.
-/

namespace PosixVfs.Text

/-- The first and the last code point of a range. -/
abbrev CodeRange := Nat × Nat

/-- The code point of `c` lies in one of the ranges. -/
def inRanges (ranges : List CodeRange) (c : Char) : Bool :=
  ranges.any fun r => r.1 ≤ c.toNat && c.toNat ≤ r.2

end PosixVfs.Text
