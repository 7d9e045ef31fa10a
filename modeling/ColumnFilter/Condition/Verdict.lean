import ColumnFilter.Cell
import ColumnFilter.Condition
import ColumnFilter.Row

/-! # Verdicts

A row passes a condition when its cell stands in the order to the literal that
the comparator asks for. A row without the column passes unless the condition
drops such rows.
-/

namespace ColumnFilter

namespace Condition

/-- The verdict on a cell with the given text. -/
def passesCell (c : Condition) (raw : String) : Bool :=
  c.comparator.admits (Cell.order raw c.value)

def passes (c : Condition) (row : Row) : Bool :=
  match row.get? c.column with
  | some raw => c.passesCell raw
  | none => !c.filterIfMissing

/-- The rows that pass, in their order. -/
def keep (c : Condition) (rows : List Row) : List Row := rows.filter c.passes

end Condition

end ColumnFilter
