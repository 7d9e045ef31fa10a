import ColumnFilter.Main
import ColumnFilter.Condition.Printer
import ColumnFilter.Proofs.Calendar.Days
import ColumnFilter.Proofs.Cell.Order
import ColumnFilter.Proofs.Cell.Padding
import ColumnFilter.Proofs.Cell.Written
import ColumnFilter.Proofs.Condition.Call
import ColumnFilter.Proofs.Condition.Grammar
import ColumnFilter.Proofs.Condition.RoundTrip
import ColumnFilter.Proofs.Condition.Selection
import ColumnFilter.Proofs.Condition.Verdict
import ColumnFilter.Proofs.Numeral.NormalForm
import ColumnFilter.Proofs.Scan.Composition
import ColumnFilter.Proofs.Text.Digits
import ColumnFilter.Proofs.Text.Padded
import ColumnFilter.Proofs.Text.Quoted
import ColumnFilter.Proofs.Text.Runs
import ColumnFilter.Proofs.Timestamp.Clock
import ColumnFilter.Proofs.Timestamp.DateTime
import ColumnFilter.Proofs.Timestamp.Internet
import ColumnFilter.Proofs.Timestamp.Parts
import ColumnFilter.Proofs.Timestamp.Written
import ColumnFilter.Proofs.Token.Classes
import ColumnFilter.Proofs.Token.Faults
import ColumnFilter.Proofs.Token.Pieces
import ColumnFilter.Proofs.Token.Spacing
import ColumnFilter.Proofs.Condition.Shape
import ColumnFilter.Proofs.Json.Values
import ColumnFilter.Proofs.Record
import ColumnFilter.Proofs.CommandLine.Stages
import ColumnFilter.Proofs.Condition.Arguments
import ColumnFilter.Proofs.Scan.Opposites
import ColumnFilter.Proofs.Scan.Rescan
import ColumnFilter.Proofs.Condition.Decoding
import ColumnFilter.Proofs.Cell.Kind
import ColumnFilter.Proofs.Condition.Trial
import ColumnFilter.Proofs.Row.Members
import ColumnFilter.Proofs.Condition.Excerpt
import ColumnFilter.Proofs.Condition.Padding
import ColumnFilter.Proofs.Cell.Attempts
import ColumnFilter.Proofs.Row.Integers
import ColumnFilter.Proofs.Timestamp.Limits
import ColumnFilter.Proofs.RowKey
import ColumnFilter.Proofs.Condition.Table
import ColumnFilter.Proofs.Condition.Named
import ColumnFilter.Proofs.Condition.Fields
import ColumnFilter.Proofs.CommandLine.Flags
