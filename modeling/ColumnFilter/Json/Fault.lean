import ColumnFilter.Text.Size

/-! # Faults of JSON texts

A fault has a cause and a place, which is given by the number of bytes that
have not been read. From it follow the line and the column, both in bytes of
the whole text, the column being zero at the beginning of a line.
-/

namespace ColumnFilter.Json

inductive Cause
  | endInValue
  | endInString
  | endInArray
  | endInObject
  | expectedValue
  | expectedIdent
  | expectedArrayEnd
  | expectedObjectEnd
  | expectedColon
  | expectedName
  | trailingComma
  | trailingCharacters
  | invalidNumber
  | numberOutOfRange
  | invalidEscape
  | loneSurrogate
  | unfinishedSurrogate
  | controlCharacter
  | tooDeep
deriving DecidableEq, Repr

namespace Cause

def message : Cause → String
  | endInValue => "EOF while parsing a value"
  | endInString => "EOF while parsing a string"
  | endInArray => "EOF while parsing a list"
  | endInObject => "EOF while parsing an object"
  | expectedValue => "expected value"
  | expectedIdent => "expected ident"
  | expectedArrayEnd => "expected `,` or `]`"
  | expectedObjectEnd => "expected `,` or `\x7d`"
  | expectedColon => "expected `:`"
  | expectedName => "key must be a string"
  | trailingComma => "trailing comma"
  | trailingCharacters => "trailing characters"
  | invalidNumber => "invalid number"
  | numberOutOfRange => "number out of range"
  | invalidEscape => "invalid escape"
  | loneSurrogate => "lone leading surrogate in hex escape"
  | unfinishedSurrogate => "unexpected end of hex escape"
  | controlCharacter => "control character (\\u0000-\\u001F) found while parsing a string"
  | tooDeep => "recursion limit exceeded"

/-- Whether the text ended too early. -/
def isEnd : Cause → Bool
  | endInValue | endInString | endInArray | endInObject => true
  | _ => false

end Cause

structure Fault where
  cause : Cause
  unread : Nat
deriving DecidableEq, Repr

namespace Fault

/-- A fault at the place where the rest of the text begins. -/
def here (cause : Cause) (rest : List Char) : Fault := ⟨cause, Text.byteLength rest⟩

/-- A fault at a place the given number of bytes further on, or at the end of the text. -/
def past (bytes : Nat) (cause : Cause) (rest : List Char) : Fault :=
  ⟨cause, Text.byteLength rest - bytes⟩

/-- The line and the column after the first `bytes` bytes of a text. -/
def position (bytes line column : Nat) : List Char → Nat × Nat
  | [] => (line, column)
  | c :: rest =>
    if bytes = 0 then (line, column)
    else if c = '\n' then position (bytes - 1) (line + 1) 0 rest
    else position (bytes - c.utf8Size) line (column + min bytes c.utf8Size) rest

def message (f : Fault) (text : String) : String :=
  let s := text.toList
  let (line, column) := position (Text.byteLength s - f.unread) 1 0 s
  f.cause.message ++ s!" at line {line} column {column}"

end Fault

/-- Reads a value from the beginning of a text and leaves the rest. -/
abbrev Reader (α : Type) := List Char → Except Fault (α × List Char)

end ColumnFilter.Json
