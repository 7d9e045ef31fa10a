import ColumnFilter.Token.Lexer

/-! # Rejected expressions

The ways in which a text fails to be a filter expression, with their wording.
A rejection carries the whole text beside the cause.
-/

namespace ColumnFilter

inductive Argument
  | family
  | qualifier
  | comparator
  | value
deriving DecidableEq, Repr

def Argument.label : Argument → String
  | family => "column family"
  | qualifier => "column qualifier"
  | comparator => "comparator"
  | value => "value"

/-- The most arguments that a filter takes. -/
def maxArguments : Nat := 6

inductive SyntaxError
  | blank
  | lexical (e : LexicalError)
  | unknownFilter (name : String)
  | unexpectedToken (token : Token) (offset : Nat)
  | unexpectedEnd
  | invalidComparator (text : String)
  | invalidFlag (found : Token)
  | unquoted (argument : Argument) (found : Token)
  | emptyArgument (argument : Argument)
  | missingArgument (argument : Argument)
  | tooManyArguments (count : Nat)
deriving DecidableEq, Repr

def SyntaxError.message : SyntaxError → String
  | blank => "filter expression is empty"
  | lexical e => e.message
  | unknownFilter name => "unknown filter: " ++ name
  | unexpectedToken token offset =>
    "unexpected token " ++ token.render ++ " at position " ++ toString offset
  | unexpectedEnd => "unexpected end of expression"
  | invalidComparator text => "invalid comparator: " ++ text
  | invalidFlag found => "invalid boolean: " ++ found.render ++ " (expected true or false)"
  | unquoted argument found =>
    argument.label ++ " must be a quoted literal, found " ++ found.render
  | emptyArgument argument => argument.label ++ " must not be empty"
  | missingArgument argument => "missing argument: " ++ argument.label
  | tooManyArguments count => s!"too many arguments: {count} (expected at most {maxArguments})"

structure Rejection where
  input : String
  cause : SyntaxError
deriving DecidableEq, Repr

def Rejection.message (r : Rejection) : String :=
  "invalid filter \"" ++ r.input ++ "\": " ++ r.cause.message

end ColumnFilter
