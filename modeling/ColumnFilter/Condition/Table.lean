import ColumnFilter.Condition.Json

/-! # Tables of conditions

A condition as six lines, each of a label and a value. Labels are padded to one
width and may be dimmed.
-/

namespace ColumnFilter

/-- Text between two escape sequences of a terminal. -/
def styled (opening closing : String) (text : String) : String :=
  "\x1b[" ++ opening ++ "m" ++ text ++ "\x1b[" ++ closing ++ "m"

namespace Condition

def labelWidth : Nat := 20

def pad (label : String) : String :=
  label ++ String.ofList (List.replicate (labelWidth - label.length) ' ')

def Field.text (c : Condition) : Field → String
  | .family => c.family
  | .qualifier => c.qualifier
  | .comparator => c.comparator.symbol
  | .value => c.value
  | .filterIfMissing => toString c.filterIfMissing
  | .latestVersionOnly => toString c.latestVersionOnly

def tableLine (colors : Bool) (c : Condition) (field : Field) : String :=
  let label := pad field.name
  (if colors then styled "2" "0" label else label) ++ " " ++ Field.text c field ++ "\n"

def table (colors : Bool) (c : Condition) : String :=
  String.join (Field.all.map (tableLine colors c))

end Condition

end ColumnFilter
