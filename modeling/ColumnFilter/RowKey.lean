import ColumnFilter.Text.Lowercase

/-! # Row keys

Rows are found by the lower case form of their identifiers, which may be of any
type with a text.
-/

namespace ColumnFilter

structure RowKey where
  text : String
deriving DecidableEq, Repr

namespace RowKey

/-- The key of the row with the given identifier. -/
def ofIdentifier (id : String) : RowKey := ⟨String.ofList (Text.lowercase id.toList)⟩

/-- The key by the text of an identifier. -/
def of {α : Type} [ToString α] (id : α) : RowKey := ofIdentifier (toString id)

instance : Coe String RowKey := ⟨of⟩

instance : Coe String.Slice RowKey := ⟨of⟩

end RowKey

end ColumnFilter
