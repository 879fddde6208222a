/-!
# Ranges of code points

Character properties of the Unicode standard are given as lists of closed
ranges of code points in ascending order.  A character has the property when
some range of the list covers it.
-/

namespace RouteScribe.Text

/-- A closed range of code points, from its first to its last member. -/
abbrev CodeRange := Nat × Nat

def inRanges (ranges : List CodeRange) (c : Char) : Bool :=
  ranges.any fun range => range.1 ≤ c.toNat && c.toNat ≤ range.2

end RouteScribe.Text
