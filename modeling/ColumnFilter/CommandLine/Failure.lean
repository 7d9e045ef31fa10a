import ColumnFilter.Condition.Rejection
import ColumnFilter.Config
import ColumnFilter.Json.Printer
import ColumnFilter.Scan

/-! # Failures

What makes a command fail, with its wording, its code and the exit status of
the program: 1 for a filter or a configuration, 2 for what is read with it.
-/

namespace ColumnFilter.CommandLine

inductive Failure
  | filter (r : Rejection)
  | row (line : Nat) (e : RowError)
  | config (e : ConfigError)
  | file (e : FileError)
  | json (fault : Json.Fault) (text : String)
deriving DecidableEq, Repr

namespace Failure

def message : Failure → String
  | filter r => "filter error: " ++ r.message
  | row line e => s!"invalid row at line {line}: " ++ e.message
  | config e => "configuration error: " ++ e.message
  | file e => "I/O error: " ++ e.message
  | json fault text => "serialization error: " ++ fault.message text

def code : Failure → String
  | filter _ => "FILTER_ERROR"
  | row .. => "INVALID_ROW"
  | config _ => "CONFIG_ERROR"
  | file _ => "IO_ERROR"
  | json .. => "JSON_ERROR"

def exitCode : Failure → Nat
  | filter _ | config _ => 1
  | row .. | file _ | json .. => 2

/-- The failure of a row that is given by itself, where a malformed text is no row at all. -/
def ofRow : RowError → Failure
  | .malformed fault text => json fault text
  | e => row 1 e

def ofScan : ScanError → Failure
  | .input e => file e
  | .row line e => row line e

def toJson (f : Failure) : Json :=
  .object [("error", .object [("code", .string f.code), ("message", .string f.message)])]

/-- What is reported on standard error. -/
def report (asJson : Bool) (f : Failure) : String :=
  (if asJson then f.toJson.pretty else "Error: " ++ f.message) ++ "\n"

end Failure

end ColumnFilter.CommandLine
