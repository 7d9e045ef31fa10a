import ColumnFilter.Numeral
import ColumnFilter.Timestamp.Reader

/-! # Cells

The value that the text of a cell stands for: an integer, a timestamp, or the
text itself. Blanks around an integer or a timestamp do not count.
-/

namespace ColumnFilter

inductive Cell
  | integer (n : Numeral)
  | time (t : Timestamp)
  | text (s : String)
deriving DecidableEq, Repr

namespace Cell

def ofText (raw : String) : Cell :=
  let s := Text.trim raw.toList
  match Numeral.ofText? s with
  | some n => integer n
  | none =>
    match Timestamp.ofText? s with
    | some t => time t
    | none => text raw

/-- The order of two values of one kind. -/
def compare? : Cell → Cell → Option Ordering
  | integer a, integer b => some (a.compare b)
  | time a, time b => some (a.compare b)
  | text a, text b => some (compare a b)
  | _, _ => none

/-- Whether two values are of one kind and equal, the offsets of timestamps aside. -/
def same : Cell → Cell → Bool
  | integer a, integer b => a == b
  | time a, time b => a.sameInstant b
  | text a, text b => a == b
  | _, _ => false

/-- The order of two texts: by their values where these are of one kind, else as texts. -/
def order (a b : String) : Ordering :=
  ((ofText a).compare? (ofText b)).getD (compare a b)

end Cell

end ColumnFilter
