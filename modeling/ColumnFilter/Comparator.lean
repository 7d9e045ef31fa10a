/-! # Comparators

The six comparisons of a cell with a literal, their symbols, and the orderings
that each of them admits.
-/

namespace ColumnFilter

inductive Comparator
  | equal
  | notEqual
  | less
  | lessOrEqual
  | greater
  | greaterOrEqual
deriving DecidableEq, Repr

namespace Comparator

def all : List Comparator := [equal, notEqual, less, lessOrEqual, greater, greaterOrEqual]

def symbol : Comparator → String
  | equal => "="
  | notEqual => "!="
  | less => "<"
  | lessOrEqual => "<="
  | greater => ">"
  | greaterOrEqual => ">="

def ofSymbol? (s : String) : Option Comparator := all.find? (·.symbol == s)

/-- Whether the comparison holds of a cell that stands in the given order to the literal. -/
def admits : Comparator → Ordering → Bool
  | equal, o => o == .eq
  | notEqual, o => o != .eq
  | less, o => o == .lt
  | lessOrEqual, o => o != .gt
  | greater, o => o == .gt
  | greaterOrEqual, o => o != .lt

theorem ofSymbol?_symbol (op : Comparator) : ofSymbol? op.symbol = some op := by
  cases op <;> decide

end Comparator

end ColumnFilter
