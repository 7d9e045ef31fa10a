/-! # Decimal numbers

A nonnegative decimal number is a run of digits, read as a natural number, and
a power of ten. Its layout is positional for middling exponents and scientific
for the others.
-/

namespace ColumnFilter

/-- The number `digits * 10 ^ scale`. -/
structure Decimal where
  digits : Nat
  scale : Int
deriving DecidableEq, Repr

namespace Decimal

def digitCount (n : Nat) : Nat := (Nat.toDigits 10 n).length

/-- The same number without zeros at the end of its digits. -/
def strip (d : Decimal) : Decimal :=
  if h : d.digits ≠ 0 ∧ d.digits % 10 = 0 then strip ⟨d.digits / 10, d.scale + 1⟩ else d
termination_by d.digits
decreasing_by omega

/-- The power of ten at which the first digit stands. -/
def exponent (d : Decimal) : Int := d.scale + digitCount d.digits - 1

/-- The exponents, both included, at which a number is written positionally. -/
structure Layout where
  least : Int
  greatest : Int

def zeros (n : Nat) : List Char := List.replicate n '0'

/-- Positional notation, with one digit at least on both sides of the point. -/
def positional (d : Decimal) : List Char :=
  let digits := Nat.toDigits 10 d.digits
  if 0 ≤ d.scale then digits ++ zeros d.scale.toNat ++ ['.', '0']
  else if 0 ≤ d.exponent then
    let whole := (d.exponent + 1).toNat
    digits.take whole ++ '.' :: digits.drop whole
  else '0' :: '.' :: zeros (-d.exponent - 1).toNat ++ digits

/-- One digit before the point, if more than one there is, and a signed exponent. -/
def scientific (d : Decimal) : List Char :=
  let mantissa := match Nat.toDigits 10 d.digits with
    | first :: next :: rest => first :: '.' :: next :: rest
    | digits => digits
  mantissa ++ 'e' :: (if d.exponent < 0 then '-' else '+')
    :: Nat.toDigits 10 d.exponent.natAbs

def Layout.write (l : Layout) (d : Decimal) : List Char :=
  if d.digits = 0 then positional ⟨0, 0⟩
  else if l.least ≤ d.exponent ∧ d.exponent ≤ l.greatest then positional d
  else scientific d

end Decimal

end ColumnFilter
