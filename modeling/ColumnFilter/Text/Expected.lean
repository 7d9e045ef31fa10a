/-! # Expected characters

Taking given characters off the front of a text, if it begins with them.
-/

namespace ColumnFilter.Text

/-- The rest of a text that begins with the given character. -/
def expect (c : Char) : List Char → Option (List Char)
  | [] => none
  | d :: rest => if d = c then some rest else none

/-- The rest of a text that begins with the given characters. -/
def expectAll : List Char → List Char → Option (List Char)
  | [], s => some s
  | c :: cs, s => expect c s >>= expectAll cs

end ColumnFilter.Text
