import ColumnFilter.Condition
import ColumnFilter.Json.Decode
import ColumnFilter.Record

/-! # Conditions in JSON

A condition is an object of six members, or an array of their values in the
same order. Members of other names are passed over, and the two flags may be
left out. A comparator is its symbol, or an object that maps the symbol to null.
-/

namespace ColumnFilter

open Json

inductive Field
  | family
  | qualifier
  | comparator
  | value
  | filterIfMissing
  | latestVersionOnly
deriving DecidableEq, Repr

namespace Field

/-- The fields in the order in which they are written. -/
def all : List Field :=
  [family, qualifier, comparator, value, filterIfMissing, latestVersionOnly]

def name : Field → String
  | family => "column_family"
  | qualifier => "column_qualifier"
  | comparator => "comparator"
  | value => "value"
  | filterIfMissing => "filter_if_missing"
  | latestVersionOnly => "latest_version_only"

def ofName? (s : String) : Option Field := all.find? (·.name == s)

/-- Whether a condition has no default for the field. -/
def isRequired : Field → Bool
  | filterIfMissing | latestVersionOnly => false
  | _ => true

end Field

namespace Condition

def toJson (c : Condition) : Json :=
  .object
    [(Field.family.name, .string c.family), (Field.qualifier.name, .string c.qualifier),
      (Field.comparator.name, .string c.comparator.symbol), (Field.value.name, .string c.value),
      (Field.filterIfMissing.name, .boolean c.filterIfMissing),
      (Field.latestVersionOnly.name, .boolean c.latestVersionOnly)]

/-- The fields of a condition that have been met so far. -/
structure Draft where
  family : Option String := none
  qualifier : Option String := none
  comparator : Option Comparator := none
  value : Option String := none
  filterIfMissing : Option Bool := none
  latestVersionOnly : Option Bool := none
deriving DecidableEq, Repr

namespace Draft

def has (d : Draft) : Field → Bool
  | .family => d.family.isSome
  | .qualifier => d.qualifier.isSome
  | .comparator => d.comparator.isSome
  | .value => d.value.isSome
  | .filterIfMissing => d.filterIfMissing.isSome
  | .latestVersionOnly => d.latestVersionOnly.isSome

def required {α : Type} (field : Field) : Option α → Except DecodeError α
  | some v => .ok v
  | none => .error (.missingField field.name)

/-- The condition, unless one of the four fields without a default is missing. -/
def finish (d : Draft) : Except DecodeError Condition := do
  let family ← required .family d.family
  let qualifier ← required .qualifier d.qualifier
  let comparator ← required .comparator d.comparator
  let value ← required .value d.value
  return { family, qualifier, comparator, value
           filterIfMissing := d.filterIfMissing.getD false
           latestVersionOnly := d.latestVersionOnly.getD true }

end Draft

def comparatorOf (symbol : String) : Except DecodeError Comparator :=
  match Comparator.ofSymbol? symbol with
  | some op => .ok op
  | none => .error (.unknownVariant symbol (Comparator.all.map (·.symbol)))

/-- A symbol, which nothing but a string can be. A value of another kind in its place, be it well
formed or not, is a fault of the text and no error of type. -/
def decodeSymbol : Decoder Comparator := fun s =>
  match skipBlanks s with
  | [] => .error (.malformed .endInValue)
  | '"' :: rest => do
    let (symbol, s) ← malformed (readString rest)
    return (← comparatorOf symbol, s)
  | _ => .error (.malformed .expectedValue)

def decodeComparator : Decoder Comparator := fun s =>
  let s := skipBlanks s
  match s with
  | '\x7b' :: rest => do
    let (op, s) ← decodeSymbol rest
    let s ← malformed (readColon s)
    let ((), s) ← decodeNull s
    match skipBlanks s with
    | [] => .error (.malformed .endInObject)
    | '\x7d' :: rest => return (op, rest)
    | _ => .error (.malformed .expectedValue)
  | s => decodeSymbol s

/-- Decodes the value of a field into a draft. -/
def Draft.decode (d : Draft) : Field → Decoder Draft
  | .family => fun s => (decodeString s).map fun (v, s) => ({ d with family := some v }, s)
  | .qualifier => fun s => (decodeString s).map fun (v, s) => ({ d with qualifier := some v }, s)
  | .comparator => fun s =>
    (decodeComparator s).map fun (v, s) => ({ d with comparator := some v }, s)
  | .value => fun s => (decodeString s).map fun (v, s) => ({ d with value := some v }, s)
  | .filterIfMissing => fun s =>
    (decodeBoolean s).map fun (v, s) => ({ d with filterIfMissing := some v }, s)
  | .latestVersionOnly => fun s =>
    (decodeBoolean s).map fun (v, s) => ({ d with latestVersionOnly := some v }, s)

/-- Members from behind the brace on, in at most the given number of rounds. -/
def decodeMembers : Nat → Bool → Draft → Decoder Draft
  | 0, _, _ => fun _ => .error (.malformed .endInObject)
  | rounds + 1, first, d => fun s => do
    match ← malformed (nextName first s) with
    | none => return (d, close s)
    | some s =>
      let (name, s) ← malformed (readString s)
      match Field.ofName? name with
      | none =>
        let ((), s) ← malformed (readColon s >>= skip)
        decodeMembers rounds false d s
      | some field =>
        if d.has field then .error (.duplicateField field.name)
        else
          let (d, s) ← d.decode field (← malformed (readColon s))
          decodeMembers rounds false d s

/-- What an array of values has to be. -/
def arrayForm : String := "struct FilterSpec with 6 elements"

/-- The values of the given fields, the first of which has the given index. -/
def decodeItems : List Field → Nat → Draft → Decoder Draft
  | [], _, d => fun s => .ok (d, s)
  | field :: fields, index, d => fun s => do
    match ← malformed (nextItem (index == 0) s) with
    | none =>
      if field.isRequired then .error (.wrongLength index arrayForm) else return (d, s)
    | some s =>
      let (d, s) ← d.decode field s
      decodeItems fields (index + 1) d s

/-- The end of an array that has no room for further values. A comma is one too many only where the
array ends behind it. -/
def decodeArrayEnd (s : List Char) : Except DecodeError (List Char) :=
  match skipBlanks s with
  | [] => .error (.malformed .endInArray)
  | ']' :: rest => .ok rest
  | ',' :: rest =>
    match skipBlanks rest with
    | ']' :: _ => .error (.malformed .trailingComma)
    | _ => .error (.malformed .trailingCharacters)
  | _ => .error (.malformed .trailingCharacters)

def decode : Decoder Condition := fun s =>
  let s := skipBlanks s
  match s with
  | '[' :: rest => do
    let (d, s) ← decodeItems Field.all 0 {} rest
    let c ← d.finish
    return (c, ← decodeArrayEnd s)
  | '\x7b' :: rest => do
    let (d, s) ← decodeMembers s.length true {} rest
    return (← d.finish, s)
  | s => refuse "struct FilterSpec" s

def ofJsonText (text : String) : Except DecodeError Condition := Decoder.run decode text

def stringOf : Json → Except DecodeError String
  | .string s => .ok s
  | v => .error (.wrongType (.ofJson v) "a string")

def booleanOf : Json → Except DecodeError Bool
  | .boolean b => .ok b
  | v => .error (.wrongType (.ofJson v) "a boolean")

def comparatorOfJson : Json → Except DecodeError Comparator
  | .string symbol => comparatorOf symbol
  | .object [(symbol, v)] => do
    let op ← comparatorOf symbol
    match v with
    | .null => return op
    | v => .error (.wrongType (.ofJson v) "unit")
  | .object _ => .error (.wrongObject "map with a single key")
  | v => .error (.wrongType (.ofJson v) "string or map")

/-- Sets a field of a draft to a value. -/
def Draft.set (d : Draft) (field : Field) (v : Json) : Except DecodeError Draft :=
  match field with
  | .family => (stringOf v).map fun v => { d with family := some v }
  | .qualifier => (stringOf v).map fun v => { d with qualifier := some v }
  | .comparator => (comparatorOfJson v).map fun v => { d with comparator := some v }
  | .value => (stringOf v).map fun v => { d with value := some v }
  | .filterIfMissing => (booleanOf v).map fun v => { d with filterIfMissing := some v }
  | .latestVersionOnly => (booleanOf v).map fun v => { d with latestVersionOnly := some v }

def setAll : List (String × Json) → Draft → Except DecodeError Draft
  | [], d => .ok d
  | (name, v) :: rest, d =>
    match Field.ofName? name with
    | none => setAll rest d
    | some field => d.set field v >>= setAll rest

/-- The condition that an object holds, its members being taken in the order of their names. -/
def ofRecord (members : Record Json) : Except DecodeError Condition := do
  (← setAll members.entries {}).finish

end Condition

end ColumnFilter
