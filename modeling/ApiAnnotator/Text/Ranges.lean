/-!
# Ranges of characters

A class of characters as a list of closed ranges of code points.
-/

namespace ApiAnnotator.Text

/-- The first and the last code point of a range. -/
abbrev CodeRange := Nat × Nat

/-- Whether one of the ranges contains the character. -/
def inRanges (ranges : List CodeRange) (c : Char) : Bool :=
  ranges.any fun (first, last) => first ≤ c.toNat && c.toNat ≤ last

end ApiAnnotator.Text
