import ColumnFilter.Condition.Parser

/-! # Writing conditions

The canonical expression of a condition names all six arguments, tags the value
as binary and quotes whatever may hold any character.
-/

namespace ColumnFilter

namespace Condition

def quote (text : String) : String := (Token.quoted text).render

/-- The type tag that is written before every value. -/
def tag : String := "binary:"

def render (c : Condition) : String :=
  filterName ++ "(" ++ ", ".intercalate
    [quote c.family, quote c.qualifier, c.comparator.symbol, quote (tag ++ c.value),
      toString c.filterIfMissing, toString c.latestVersionOnly] ++ ")"

end Condition

end ColumnFilter
