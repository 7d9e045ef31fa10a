/-! # Signs and digits

Runs of ASCII digits, the number that a run denotes, the sign in front of it,
and the digits of base sixteen.
-/

namespace ColumnFilter.Text

def digitValue (c : Char) : Nat := c.toNat - '0'.toNat

/-- The number that a run of digits denotes, the most significant digit first. -/
def digitsValue (s : List Char) : Nat := s.foldl (fun n c => 10 * n + digitValue c) 0

/-- The sign of a text, true for a minus, and the text without it. -/
def splitSign : List Char → Bool × List Char
  | '-' :: rest => (true, rest)
  | '+' :: rest => (false, rest)
  | s => (false, s)

/-- The digits that a text starts with, and what follows them. -/
def spanDigits (s : List Char) : List Char × List Char :=
  (s.takeWhile Char.isDigit, s.dropWhile Char.isDigit)

/-- The value of a hexadecimal digit of either case. -/
def hexValue? (c : Char) : Option Nat :=
  if '0' ≤ c ∧ c ≤ '9' then some (c.toNat - '0'.toNat)
  else if 'a' ≤ c ∧ c ≤ 'f' then some (c.toNat - 'a'.toNat + 10)
  else if 'A' ≤ c ∧ c ≤ 'F' then some (c.toNat - 'A'.toNat + 10)
  else none

end ColumnFilter.Text
