import ColumnFilter.Decimal

/-! # Shortest decimals

Of the decimal numbers that round to a given binary floating-point number, the
shortest are those with the fewest digits, and the nearest of these is taken.
Everything is decided with natural numbers: a number and the ends of the
interval that rounds to it are fractions over one denominator.
-/

namespace ColumnFilter.Decimal

/-- A positive number and the interval of the reals that round to it, as multiples of
`1 / denominator`. -/
structure Interval where
  low : Nat
  value : Nat
  high : Nat
  denominator : Nat
  /-- Whether the ends belong to the interval. -/
  closed : Bool
deriving DecidableEq, Repr

namespace Interval

/-- The interval of the double of the given significand and exponent field. Below the least
significand of a binade the doubles stand twice as close. -/
def ofFields (fraction exponent : Nat) : Interval :=
  let significand := if exponent = 0 then fraction else fraction + Nat.pow 2 52
  let shift := max exponent 1
  let unit := Nat.pow 2 (shift - 1)
  let below := if fraction = 0 ∧ 1 < exponent then 1 else 2
  { low := (4 * significand - below) * unit
    value := 4 * significand * unit
    high := (4 * significand + 2) * unit
    denominator := 4 * Nat.pow 2 1074
    closed := significand % 2 = 0 }

/-- Whether `d * ten ^ scale` lies in the interval. -/
def has (i : Interval) (d : Decimal) : Bool :=
  let n := d.digits * i.denominator * Nat.pow 10 d.scale.toNat
  let one := Nat.pow 10 (-d.scale).toNat
  if i.closed then decide (i.low * one ≤ n) && decide (n ≤ i.high * one)
  else decide (i.low * one < n) && decide (n < i.high * one)

/-- The distance from the value, in units that depend on the scale of the decimal alone. -/
def distance (i : Interval) (d : Decimal) : Nat :=
  let n := d.digits * i.denominator * Nat.pow 10 d.scale.toNat
  let v := i.value * Nat.pow 10 (-d.scale).toNat
  (n - v) + (v - n)

/-- The power of ten of the first digit of the value. -/
def exponent (i : Interval) : Int :=
  let guess : Int := digitCount i.value - digitCount i.denominator
  if i.denominator * Nat.pow 10 guess.toNat ≤ i.value * Nat.pow 10 (-guess).toNat then guess else guess - 1

/-- The two multiples of a power of ten between which the value lies. -/
def neighbours (i : Interval) (scale : Int) : Decimal × Decimal :=
  let below := i.value * Nat.pow 10 (-scale).toNat / (i.denominator * Nat.pow 10 scale.toNat)
  (⟨below, scale⟩, ⟨below + 1, scale⟩)

/-- A decimal in the interval at the given power of ten, the nearer one of two. -/
def atScale? (i : Interval) (scale : Int) : Option Decimal :=
  let (a, b) := i.neighbours scale
  match i.has a, i.has b with
  | true, true =>
    if i.distance a < i.distance b ∨ i.distance a = i.distance b ∧ a.digits % 2 = 0
    then some a else some b
  | true, false => some a
  | false, true => some b
  | false, false => none

/-- The shortest decimal in the interval; seventeen digits always reach it. -/
def shortest (i : Interval) : Decimal :=
  let exponent := i.exponent
  match (List.range 17).findSome? fun n : Nat => i.atScale? (exponent - n) with
  | some d => d.strip
  | none => ⟨0, 0⟩

end Interval

/-- The magnitude of a finite double as a shortest decimal. -/
def ofFloat (x : Float) : Decimal :=
  let bits := x.toBits.toNat
  let fraction := bits % Nat.pow 2 52
  let exponent := bits / Nat.pow 2 52 % Nat.pow 2 11
  if fraction = 0 ∧ exponent = 0 then ⟨0, 0⟩ else (Interval.ofFields fraction exponent).shortest

/-- Whether the sign of a double is a minus, that of a zero included. -/
def isNegative (x : Float) : Bool := x.toBits.toNat / Nat.pow 2 63 == 1

end ColumnFilter.Decimal
