import ColumnFilter.Calendar
import ColumnFilter.Decimal
import ColumnFilter.Text.Digits
import ColumnFilter.Toml.Text

/-! # Numbers and dates of TOML

Integers have 64 bits and may be written in four bases, with single underscores
between their digits. Of floats and of dates and times only the form is kept.
-/

namespace ColumnFilter.Toml

/-- Digits of a kind, with single underscores between them; the underscores are left out. -/
def readRun (isDigit : Char → Bool) : Reader (List Char)
  | [] => none
  | c :: rest => if isDigit c then some (c :: (more rest).1, (more rest).2) else none
where
  more : List Char → List Char × List Char
    | '_' :: d :: rest =>
      if isDigit d then (d :: (more rest).1, (more rest).2) else ([], '_' :: d :: rest)
    | c :: rest => if isDigit c then (c :: (more rest).1, (more rest).2) else ([], c :: rest)
    | [] => ([], [])

/-- The digits of a decimal integer, of which a zero stands alone. -/
def readDecimal : Reader (List Char)
  | '0' :: rest => some (['0'], rest)
  | s => readRun Char.isDigit s

def fitsInteger (n : Int) : Bool := (Int64.ofInt n).toInt == n

def integer? (n : Int) : Option Toml := if fitsInteger n then some (integer n) else none

def digitsIn (base : Nat) (digits : List Char) : Nat :=
  digits.foldl (fun n c => base * n + (Text.hexValue? c).getD 0) 0

def isDigitIn (base : Nat) (c : Char) : Bool :=
  match Text.hexValue? c with
  | some n => decide (n < base)
  | none => false

/-- An integer in another base than ten, from behind its mark on. -/
def readBased (base : Nat) : Reader Toml := fun s => do
  let (digits, rest) ← readRun (isDigitIn base) s
  return (← integer? (digitsIn base digits), rest)

/-- Whether a decimal number is too great for a double, which half a unit above the greatest
double is. -/
def isTooGreat (d : Decimal) : Bool :=
  if d.digits = 0 ∨ d.exponent < 300 then false
  else if 400 < d.exponent then true
  else decide ((Nat.pow 2 1024 - Nat.pow 2 970) * Nat.pow 10 (-d.scale).toNat
    ≤ d.digits * Nat.pow 10 d.scale.toNat)

/-- The exponent of a float behind its `e`. -/
def readExponent : Reader Int := fun s => do
  let (negative, s) := Text.splitSign s
  let (digits, rest) ← readRun Char.isDigit s
  let n : Int := Text.digitsValue digits
  return (if negative then -n else n, rest)

/-- A float or an integer behind its sign. A float must not be too great, but for its minus. -/
def readNumber (negative : Bool) : Reader Toml := fun s => do
  let (whole, s) ← readDecimal s
  let (fraction, s) ← match s with
    | '.' :: rest => (readRun Char.isDigit rest).map fun (ds, s) => (some ds, s)
    | s => some (none, s)
  let (exponent, s) ← match s with
    | 'e' :: rest | 'E' :: rest => (readExponent rest).map fun (n, s) => (some n, s)
    | s => some (none, s)
  if fraction.isNone ∧ exponent.isNone then
    let n : Int := Text.digitsValue whole
    return (← integer? (if negative then -n else n), s)
  else
    let places := fraction.getD []
    let d : Decimal := ⟨Text.digitsValue (whole ++ places), exponent.getD 0 - places.length⟩
    if ¬ negative ∧ isTooGreat d then none else some (float, s)

/-- So many digits, which denote a number from `least` to `most`. -/
def readField (count least most : Nat) : Reader Nat := fun s =>
  let digits := (s.take count).takeWhile Char.isDigit
  let n := Text.digitsValue digits
  if digits.length = count ∧ least ≤ n ∧ n ≤ most then some (n, s.drop count) else none

def readDate (s : List Char) : Option (List Char) := do
  let (year, s) ← readField 4 0 9999 s
  let (month, s) ← readField 2 1 12 (← Text.expect '-' s)
  let (day, s) ← readField 2 1 31 (← Text.expect '-' s)
  if Calendar.isDate year month day then some s else none

def readTime (s : List Char) : Option (List Char) := do
  let (_, s) ← readField 2 0 23 s
  let (_, s) ← readField 2 0 59 (← Text.expect ':' s)
  let (_, s) ← readField 2 0 60 (← Text.expect ':' s)
  match s with
  | '.' :: rest =>
    match Text.spanDigits rest with
    | ([], _) => some s
    | (_, rest) => some rest
  | s => some s

def readZone : List Char → Option (List Char)
  | 'Z' :: rest | 'z' :: rest => some rest
  | '+' :: rest | '-' :: rest => do
    let (_, s) ← readField 2 0 23 rest
    let (_, s) ← readField 2 0 59 (← Text.expect ':' s)
    return s
  | _ => none

/-- A date, a time, or both with an offset or without. -/
def readDateTime : Reader Toml := fun s =>
  match readDate s with
  | none => (readTime s).map (dateTime, ·)
  | some s =>
    let timed := match s with
      | 'T' :: rest | 't' :: rest | ' ' :: rest => readTime rest
      | _ => none
    match timed with
    | none => some (dateTime, s)
    | some s => some (dateTime, (readZone s).getD s)

/-- A number, a date or a time, from its first character on. -/
def readNumeric : Reader Toml := fun s =>
  match s with
  | '0' :: 'x' :: rest => readBased 16 rest
  | '0' :: 'o' :: rest => readBased 8 rest
  | '0' :: 'b' :: rest => readBased 2 rest
  | s =>
    match readDateTime s with
    | some r => some r
    | none =>
      let (negative, s) := Text.splitSign s
      match s with
      | 'i' :: rest => (Text.expectAll ['n', 'f'] rest).map (float, ·)
      | 'n' :: rest => (Text.expectAll ['a', 'n'] rest).map (float, ·)
      | s => readNumber negative s

end ColumnFilter.Toml
