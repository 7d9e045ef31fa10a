import ColumnFilter.Text.Alphanumeric
import ColumnFilter.Text.Quoted

/-! # Tokens

The tokens of a filter expression. Rendering a token gives the characters that
it is written with, a literal being quoted again.
-/

namespace ColumnFilter

inductive Token
  | word (text : String)
  | quoted (text : String)
  | operator (text : String)
  | opening
  | closing
  | comma
deriving DecidableEq, Repr

/-- A token and the byte offset at which it starts. -/
structure Placed where
  token : Token
  offset : Nat
deriving DecidableEq, Repr

namespace Token

def isOperatorChar (c : Char) : Bool := c == '=' || c == '!' || c == '<' || c == '>'

def isWordChar (c : Char) : Bool :=
  Text.isAlphanumeric c || c == '_' || c == '-' || c == '.' || c == '+' || c == ':'

def chars : Token → List Char
  | word text => text.toList
  | quoted text => Text.Quoted.write text.toList
  | operator text => text.toList
  | opening => ['(']
  | closing => [')']
  | comma => [',']

def render (t : Token) : String := String.ofList t.chars

end Token

end ColumnFilter
