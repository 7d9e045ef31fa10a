/-! # Ranges of code points

A set of characters is given by ascending, disjoint ranges of code points.
A search stops at the first range that begins beyond the code point.
-/

namespace ColumnFilter.Text

/-- Ascending, disjoint ranges of code points, both ends included. -/
abbrev Ranges := List (Nat × Nat)

def Ranges.has : Ranges → Nat → Bool
  | [], _ => false
  | (first, last) :: rest, n => decide (first ≤ n) && (decide (n ≤ last) || has rest n)

end ColumnFilter.Text
