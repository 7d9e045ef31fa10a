import ColumnFilter.Comparator

/-! # Conditions

A condition compares one column of a row with a literal. It also says whether a
row without the column is dropped, and whether only the latest version of the
cell counts, which the source of the rows has to heed.
-/

namespace ColumnFilter

structure Condition where
  family : String
  qualifier : String
  comparator : Comparator
  value : String
  filterIfMissing : Bool := false
  latestVersionOnly : Bool := true
deriving DecidableEq, Repr

namespace Condition

/-- The name under which a row holds the column. -/
def column (c : Condition) : String := c.family ++ ":" ++ c.qualifier

end Condition

end ColumnFilter
