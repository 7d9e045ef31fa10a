import ColumnFilter.Text.Digits

/-! # Numerals

An integer of any width, kept as a sign and its digits without leading zeros.
Numerals are ordered by sign, then by the number of digits, then digit by digit.
-/

namespace ColumnFilter

structure Numeral where
  negative : Bool
  digits : List Char
deriving DecidableEq, Repr

namespace Numeral

def normalize (negative : Bool) (digits : List Char) : Numeral :=
  match digits.dropWhile (· = '0') with
  | [] => ⟨false, ['0']⟩
  | digits => ⟨negative, digits⟩

/-- The numeral that an optional sign and one or more digits spell. -/
def ofText? (s : List Char) : Option Numeral :=
  let (negative, digits) := Text.splitSign s
  if digits = [] ∨ ¬ digits.all Char.isDigit then none else some (normalize negative digits)

def toInt (n : Numeral) : Int :=
  if n.negative then -(Text.digitsValue n.digits) else Text.digitsValue n.digits

def chars (n : Numeral) : List Char := if n.negative then '-' :: n.digits else n.digits

def compareMagnitude (a b : Numeral) : Ordering :=
  (compare a.digits.length b.digits.length).then (compare a.digits b.digits)

def compare (a b : Numeral) : Ordering :=
  match a.negative, b.negative with
  | false, true => .gt
  | true, false => .lt
  | false, false => compareMagnitude a b
  | true, true => compareMagnitude b a

end Numeral

end ColumnFilter
