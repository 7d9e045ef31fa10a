import ColumnFilter.Json
import ColumnFilter.Json.Fault
import ColumnFilter.Text.Digits

/-! # Reading numbers

An integer that fits 64 bits is taken as it is. Of any other number as many
leading digits count as fit 64 bits; they are rounded to a double, which is
then multiplied or divided by a power of ten. A minus before a zero, or before
more than 64 bits with a sign hold, makes a double as well.
-/

namespace ColumnFilter.Json

/-- A number as written: its digits before and after the point, and its exponent. -/
structure Written where
  negative : Bool
  whole : List Char
  fraction : Option (List Char)
  exponent : Option (Bool × List Char)
deriving DecidableEq, Repr

namespace Written

/-- Takes digits into a significand as long as it stays below two to the 64; leaves the others. -/
def absorb (n : Nat) : List Char → Nat × List Char
  | [] => (n, [])
  | c :: rest =>
    if 10 * n + Text.digitValue c < UInt64.size then absorb (10 * n + Text.digitValue c) rest
    else (n, c :: rest)

/-- The significand and the power of ten that belongs to it, the written exponent aside. -/
def significand (w : Written) : Nat × Int :=
  let (n, dropped) := absorb 0 w.whole
  let fraction := w.fraction.getD []
  let (n, unread) := absorb n fraction
  (n, dropped.length - (fraction.length - unread.length : Nat))

def tenTo (n : Nat) : Float := Float.ofScientific 1 false n

/-- Divides by a power of ten, in steps of the greatest power that is a double. -/
def divide (x : Float) (n : Nat) : Float :=
  if n ≤ 308 then x / tenTo n
  else if x == 0 then x
  else divide (x / tenTo 308) (n - 308)
termination_by n

/-- A significand times a power of ten, if that is finite. -/
def scale? (n : Nat) (exponent : Int) : Option Float :=
  let x := (UInt64.ofNat n).toFloat
  if exponent < 0 then some (divide x exponent.natAbs)
  else if n = 0 then some x
  else if exponent ≤ 308 then
    let y := x * tenTo exponent.natAbs
    if y.isInf then none else some y
  else none

/-- The greatest exponent that may be written for a number other than zero. -/
def greatestExponent : Nat := 2147483647

/-- The digits of an exponent after the first one that makes it too great, if one does. -/
def excess? (n : Nat) : List Char → Option (List Char)
  | [] => none
  | c :: rest =>
    let n := 10 * n + Text.digitValue c
    if greatestExponent < n then some rest else excess? n rest

def signed (w : Written) (x : Float) : Number := .real (if w.negative then -x else x)

/-- The value of a number in front of the given rest of a text. -/
def value (w : Written) (rest : List Char) : Except Fault Number :=
  let (n, start) := w.significand
  let scaled (exponent : Int) : Except Fault Number :=
    match scale? n exponent with
    | some x => .ok (w.signed x)
    | none => .error (.here .numberOutOfRange rest)
  match w.exponent with
  | some (negative, digits) =>
    match excess? 0 digits with
    | some unread =>
      if n ≠ 0 ∧ ¬ negative then .error (.here .numberOutOfRange (unread ++ rest))
      else .ok (w.signed 0)
    | none =>
      let e : Int := Text.digitsValue digits
      scaled (if negative then start - e else start + e)
  | none =>
    if w.fraction.isSome ∨ start ≠ 0 then scaled start
    else if ¬ w.negative then .ok (.whole n)
    else if n ≠ 0 ∧ n ≤ UInt64.size / 2 then .ok (.whole (-n))
    else scaled 0

end Written

/-- One digit or more, of which the first one is there to see or a fault. -/
def readDigits (fault : List Char → Fault) (s : List Char) :
    Except Fault (List Char × List Char) :=
  match s with
  | [] => .error (.here .endInValue [])
  | c :: _ => if c.isDigit then .ok (Text.spanDigits s) else .error (fault s)

/-- The digits before the point, of which a zero stands alone. -/
def readWhole : Reader (List Char)
  | '0' :: rest =>
    match rest with
    | [] => .ok (['0'], rest)
    | c :: _ => if c.isDigit then .error (.past 1 .invalidNumber rest) else .ok (['0'], rest)
  | s => readDigits (.past 1 .invalidNumber) s

def readFraction : Reader (Option (List Char))
  | '.' :: rest => (readDigits (.past 1 .invalidNumber) rest).map fun (ds, rest) => (some ds, rest)
  | s => .ok (none, s)

def readExponent (s : List Char) : Except Fault (Option (Bool × List Char) × List Char) :=
  match s with
  | [] => .ok (none, s)
  | c :: rest =>
    if c = 'e' ∨ c = 'E' then do
      let (negative, rest) := Text.splitSign rest
      let (digits, rest) ← readDigits (.past 1 .invalidNumber) rest
      return (some (negative, digits), rest)
    else .ok (none, s)

/-- A number as written, from its minus or its first digit on. -/
def readWritten (s : List Char) : Except Fault (Written × List Char) := do
  let (negative, s) := match s with
    | '-' :: rest => (true, rest)
    | s => (false, s)
  let (whole, s) ← readWhole s
  let (fraction, s) ← readFraction s
  let (exponent, s) ← readExponent s
  return ({ negative, whole, fraction, exponent }, s)

def readNumber : Reader Number := fun s => do
  let (w, rest) ← readWritten s
  return (← w.value rest, rest)

end ColumnFilter.Json
