/-!
Sets of characters given as ascending ranges of code points.
-/

namespace ServiceWiring.Text

/-- Closed ranges of code points, in ascending order and apart from each other. -/
abbrev CodeRanges := List (Nat × Nat)

/-- Membership in an ascending list of ranges; the search ends at the first range beyond the
character. -/
def CodeRanges.contains : CodeRanges → Char → Bool
  | [], _ => false
  | (low, high) :: rest, c =>
    if c.toNat < low then false
    else if c.toNat ≤ high then true
    else CodeRanges.contains rest c

end ServiceWiring.Text
