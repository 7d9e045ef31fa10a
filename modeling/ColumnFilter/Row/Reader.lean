import ColumnFilter.Json.Reader
import ColumnFilter.Row
import ColumnFilter.RowKey

/-! # Rows in JSON

A row is an object whose members are the cells. Numbers and booleans become
text, null leaves a cell out, and nothing may nest. A keyed row has one member
more, which holds its identifier.
-/

namespace ColumnFilter

inductive RowError
  | malformed (fault : Json.Fault) (text : String)
  | notObject
  | missingKey (field : String)
  | nestedCell (column : String)
deriving DecidableEq, Repr

def RowError.message : RowError → String
  | malformed fault text => fault.message text
  | notObject => "expected a JSON object"
  | missingKey field => "missing row key field '" ++ field ++ "'"
  | nestedCell column => "column '" ++ column ++ "' must hold a string, number or boolean"

/-- The text of a string, a number or a boolean. -/
def Json.scalar? : Json → Option String
  | .string s => some s
  | .number n => some n.text
  | .boolean b => some (toString b)
  | _ => none

namespace Row

/-- The members of an object, of which the last one of a name counts. -/
def readObject (text : String) : Except RowError (Record Json) :=
  match Json.parse text with
  | .error fault => .error (.malformed fault text)
  | .ok (.object members) => .ok (Record.ofList members)
  | .ok _ => .error .notObject

/-- The cells that members stand for; the first member that nests is an error. -/
def cells : List (String × Json) → Except RowError (List (String × String))
  | [] => .ok []
  | (column, v) :: rest =>
    match v.scalar?, v with
    | some text, _ => (cells rest).map ((column, text) :: ·)
    | none, .null => cells rest
    | none, _ => .error (.nestedCell column)

def ofRecord (object : Record Json) : Except RowError Row :=
  (cells object.entries).map Record.ofList

def parse (text : String) : Except RowError Row := readObject text >>= ofRecord

end Row

structure KeyedRow where
  key : RowKey
  cells : Row

namespace KeyedRow

def parse (keyColumn text : String) : Except RowError KeyedRow := do
  let object ← Row.readObject text
  match object.get? keyColumn >>= Json.scalar? with
  | none => .error (.missingKey keyColumn)
  | some id => return ⟨.ofIdentifier id, ← Row.ofRecord (object.erase keyColumn)⟩

end KeyedRow

end ColumnFilter
