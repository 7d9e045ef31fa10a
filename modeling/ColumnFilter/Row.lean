import ColumnFilter.Record

/-! # Rows

A row holds the texts of its cells under the names of their columns.
-/

namespace ColumnFilter

abbrev Row := Record String

end ColumnFilter
