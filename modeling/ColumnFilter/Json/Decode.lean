import ColumnFilter.Json.Skip
import ColumnFilter.Text.Escaped

/-! # Decoding JSON

Reading a value of a known type straight from a text. The text is read from
left to right, and the first thing that is wrong decides, be it a fault of the
text or a value of another type than the one that is asked for.
-/

namespace ColumnFilter.Json

/-- What is found where something else is expected. -/
inductive Found
  | null
  | boolean (b : Bool)
  | number (n : Number)
  | string (s : String)
  | array
  | object

namespace Found

def text : Found → String
  | null => "null"
  | boolean b => "boolean `" ++ toString b ++ "`"
  | number (.whole n) => "integer `" ++ toString n ++ "`"
  | number (.real x) => "floating point `" ++ realText x ++ "`"
  | string s => "string " ++ Text.Escaped.write s
  | array => "sequence"
  | object => "map"

def ofJson : Json → Found
  | .null => null
  | .boolean b => boolean b
  | .number n => number n
  | .string s => string s
  | .array _ => array
  | .object _ => object

end Found

/-- Why a text or a value is not of the type that is asked for. -/
inductive DecodeError
  | malformed (cause : Cause)
  | wrongType (found : Found) (expected : String)
  | wrongObject (expected : String)
  | wrongLength (length : Nat) (expected : String)
  | missingField (name : String)
  | duplicateField (name : String)
  | unknownVariant (found : String) (known : List String)

namespace DecodeError

/-- The wording of an error of type; a malformed text has none here. -/
def message? : DecodeError → Option String
  | malformed _ => none
  | wrongType found expected => "invalid type: " ++ found.text ++ ", expected " ++ expected
  | wrongObject expected => "invalid value: map, expected " ++ expected
  | wrongLength length expected => s!"invalid length {length}, expected {expected}"
  | missingField name => "missing field `" ++ name ++ "`"
  | duplicateField name => "duplicate field `" ++ name ++ "`"
  | unknownVariant found known =>
    "unknown variant `" ++ found ++ "`, expected one of "
      ++ ", ".intercalate (known.map fun k => "`" ++ k ++ "`")

end DecodeError

abbrev Decoder (α : Type) := List Char → Except DecodeError (α × List Char)

def malformed {α : Type} (r : Except Fault α) : Except DecodeError α :=
  r.mapError (.malformed ·.cause)

/-- The kind of the value that comes next; a scalar has to be well formed. -/
def readFound (s : List Char) : Except Fault Found :=
  match s with
  | [] => .error (.past 1 .endInValue s)
  | c :: rest =>
    if c = 'n' then (expectIdent ['u', 'l', 'l'] rest).map fun _ => .null
    else if c = 't' then (expectIdent ['r', 'u', 'e'] rest).map fun _ => .boolean true
    else if c = 'f' then (expectIdent ['a', 'l', 's', 'e'] rest).map fun _ => .boolean false
    else if isNumberStart c then (readNumber s).map fun (n, _) => .number n
    else if c = '"' then (readString rest).map fun (text, _) => .string text
    else if c = '[' then .ok .array
    else if c = '\x7b' then .ok .object
    else .error (.past 1 .expectedValue s)

/-- The error of a value that is not what is expected. -/
def refuse {α : Type} (expected : String) (s : List Char) : Except DecodeError α := do
  let found ← malformed (readFound s)
  .error (.wrongType found expected)

def decodeString : Decoder String := fun s =>
  match skipBlanks s with
  | '"' :: rest => malformed (readString rest)
  | s => refuse "a string" s

def decodeBoolean : Decoder Bool := fun s =>
  match skipBlanks s with
  | 't' :: rest => malformed ((expectIdent ['r', 'u', 'e'] rest).map (true, ·))
  | 'f' :: rest => malformed ((expectIdent ['a', 'l', 's', 'e'] rest).map (false, ·))
  | s => refuse "a boolean" s

def decodeNull : Decoder Unit := fun s =>
  match skipBlanks s with
  | 'n' :: rest => malformed ((expectIdent ['u', 'l', 'l'] rest).map ((), ·))
  | s => refuse "unit" s

/-- Decodes all of a text. -/
def Decoder.run {α : Type} (d : Decoder α) (text : String) : Except DecodeError α := do
  malformed (finish (← d text.toList))

end ColumnFilter.Json
