/-!
# Tables of code points

A character class is kept as an array of closed intervals of code points, in increasing order
and pairwise disjoint. Membership is a search through the intervals.
-/

namespace EntitySql.Text

set_option autoImplicit false

/-- Whether a code point lies in one of the closed intervals. -/
def inRanges (ranges : Array (Nat × Nat)) (code : Nat) : Bool :=
  ranges.any fun (first, last) => first ≤ code && code ≤ last

end EntitySql.Text
