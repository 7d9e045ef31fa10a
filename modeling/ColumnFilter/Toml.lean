/-! # Values of TOML

A document is a table. Tables remember how they came about, since that decides
what may still be added to them: a table that a header names is complete when
the next header comes, one that a dotted key or a longer header implies can be
extended, and one written in braces is closed.
-/

namespace ColumnFilter

/-- How a table came about that is not written in braces. -/
inductive Toml.Origin
  | header
  | implied
  | dotted
deriving DecidableEq, Repr

inductive Toml
  | boolean (b : Bool)
  | integer (n : Int)
  | float
  | string (s : String)
  | dateTime
  | array (items : List Toml)
  | inlineTable (members : List (String × Toml))
  | table (origin : Toml.Origin) (members : List (String × Toml))
  | tables (items : List (List (String × Toml)))

namespace Toml

abbrev Members := List (String × Toml)

def lookup? (name : String) : Members → Option Toml
  | [] => none
  | (n, v) :: rest => if n = name then some v else lookup? name rest

/-- The members with another value for a name that occurs. -/
def replace (name : String) (v : Toml) : Members → Members
  | [] => []
  | (n, w) :: rest => if n = name then (n, v) :: rest else (n, w) :: replace name v rest

/-- Sets a key of one part or more to a value. The last part must be new in its table; the tables
on the way are made or extended if they come from dotted keys, and may be passed through if they
are implied by a header or are the last of an array of tables. -/
def assign (v : Toml) : List String → Bool → Members → Option Members
  | [], _, _ => none
  | [k], fits, ms => if fits ∧ (lookup? k ms).isNone then some (ms ++ [(k, v)]) else none
  | k :: ks, _, ms =>
    match lookup? k ms with
    | none => (assign v ks true []).map fun sub => ms ++ [(k, table .dotted sub)]
    | some (table .dotted sub) =>
      (assign v ks true sub).map fun sub => replace k (table .dotted sub) ms
    | some (table .implied sub) =>
      (assign v ks false sub).map fun sub => replace k (table .implied sub) ms
    | some (tables items) => do
      let sub ← assign v ks false (← items.getLast?)
      return replace k (tables (items.dropLast ++ [sub])) ms
    | some _ => none

/-- Does something to the table that a header names. -/
def update (f : Members → Option Members) : List String → Members → Option Members
  | [], ms => f ms
  | k :: ks, ms => do
    match ← lookup? k ms with
    | table origin sub => return replace k (table origin (← update f ks sub)) ms
    | tables items =>
      let sub ← update f ks (← items.getLast?)
      return replace k (tables (items.dropLast ++ [sub])) ms
    | _ => none

/-- Makes the table of a header, or the next one of an array of tables. -/
def openTable (inArray : Bool) : List String → Members → Option Members
  | [], _ => none
  | [k], ms =>
    match lookup? k ms, inArray with
    | none, true => some (ms ++ [(k, tables [[]])])
    | some (tables items), true => some (replace k (tables (items ++ [[]])) ms)
    | none, false => some (ms ++ [(k, table .header [])])
    | some (table .implied sub), false => some (replace k (table .header sub) ms)
    | _, _ => none
  | k :: ks, ms =>
    match lookup? k ms with
    | none => (openTable inArray ks []).map fun sub => ms ++ [(k, table .implied sub)]
    | some (table origin sub) =>
      (openTable inArray ks sub).map fun sub => replace k (table origin sub) ms
    | some (tables items) => do
      let sub ← openTable inArray ks (← items.getLast?)
      return replace k (tables (items.dropLast ++ [sub])) ms
    | some _ => none

end Toml

end ColumnFilter
