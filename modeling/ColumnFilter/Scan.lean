import ColumnFilter.Condition.Verdict
import ColumnFilter.File
import ColumnFilter.Row.Reader
import ColumnFilter.Text.Blank

/-! # Scans

A scan reads keyed rows from the lines of a file, one to a line, and keeps
those that pass a condition. Blank lines are passed over but counted. The first
line that is no text or no row ends the scan.
-/

namespace ColumnFilter

inductive ScanError
  | input (e : FileError)
  | row (line : Nat) (e : RowError)
deriving DecidableEq, Repr

namespace Scan

/-- Adds a byte to the first of some lines. -/
def extend (b : UInt8) : List (List UInt8) → List (List UInt8)
  | [] => [[b]]
  | line :: rest => (b :: line) :: rest

/-- The lines of a file, each without its line feed and a carriage return before that. -/
def lines : List UInt8 → List (List UInt8)
  | [] => []
  | 13 :: 10 :: rest => [] :: lines rest
  | b :: rest => if b = 10 then [] :: lines rest else extend b (lines rest)

variable (c : Condition) (keyColumn : String)

/-- The rows that a line adds to a scan. -/
def readLine (number : Nat) (line : List UInt8) : Except ScanError (List KeyedRow) :=
  match File.decode line with
  | .error e => .error (.input e)
  | .ok text =>
    if text.toList.all Text.isBlank then .ok []
    else
      match KeyedRow.parse keyColumn text with
      | .error e => .error (.row number e)
      | .ok row => .ok (if c.passes row.cells then [row] else [])

/-- The rows that lines add, the first of which has the given number. -/
def readLines (number : Nat) : List (List UInt8) → Except ScanError (List KeyedRow)
  | [] => .ok []
  | line :: rest => do
    let first ← readLine c keyColumn number line
    let others ← readLines (number + 1) rest
    return first ++ others

def run (bytes : List UInt8) : Except ScanError (List KeyedRow) :=
  readLines c keyColumn 1 (lines bytes)

end Scan

end ColumnFilter
