import ColumnFilter.Text.Blank
import ColumnFilter.Text.Digits
import ColumnFilter.Text.Expected
import ColumnFilter.Timestamp

/-! # Reading timestamps

Five layouts are tried in turn: the internet profile of ISO 8601, to the
letter, and four lenient ones, with a `T` or a blank between date and time and
with or without seconds. The lenient layouts skip blanks before every number.
-/

namespace ColumnFilter.Timestamp

/-- The number that a text starts with, of at least `least` and at most `most` digits. -/
def readNumber (least most : Nat) (s : List Char) : Option (Nat × List Char) :=
  let digits := (s.take most).takeWhile Char.isDigit
  if least ≤ digits.length then some (Text.digitsValue digits, s.drop digits.length) else none

/-- The nanoseconds of a fraction: its first nine digits, or as many as there are and zeros. -/
def nanosecondsOf (digits : List Char) : Nat :=
  Text.digitsValue (digits.take 9) * Nat.pow 10 (9 - digits.length)

/-- A fraction of a second, if a point is next. -/
def readFraction : List Char → Option (Nat × List Char)
  | '.' :: s =>
    match Text.spanDigits s with
    | ([], _) => none
    | (digits, rest) => some (nanosecondsOf digits, rest)
  | s => some (0, s)

def readSign : List Char → Option (Int × List Char)
  | '+' :: rest => some (1, rest)
  | '-' :: rest | '\u2212' :: rest => some (-1, rest)
  | _ => none

/-- A sign, two digits of hours and two of minutes, with whatever `colon` reads between them. -/
def readOffset (colon : List Char → Option (List Char)) (s : List Char) :
    Option (Int × List Char) := do
  let (sign, s) ← readSign s
  let (hours, s) ← readNumber 2 2 s
  let s ← colon s
  let (minutes, s) ← readNumber 2 2 s
  if minutes < 60 then some (sign * (3600 * hours + 60 * minutes), s) else none

/-- The offset of the strict layout, where `Z` stands for universal time. -/
def readZone : List Char → Option (Int × List Char)
  | 'Z' :: rest | 'z' :: rest => some (0, rest)
  | s => readOffset (Text.expect ':') s

def readStrict (s : List Char) : Option Fields := do
  let (year, s) ← readNumber 4 4 s
  let s ← Text.expect '-' s
  let (month, s) ← readNumber 2 2 s
  let s ← Text.expect '-' s
  let (day, s) ← readNumber 2 2 s
  let s ← Text.expect 'T' s <|> Text.expect 't' s <|> Text.expect ' ' s
  let (hour, s) ← readNumber 2 2 s
  let s ← Text.expect ':' s
  let (minute, s) ← readNumber 2 2 s
  let s ← Text.expect ':' s
  let (second, s) ← readNumber 2 2 s
  let (nanosecond, s) ← readFraction s
  let (offset, s) ← readZone s
  if s = [] then some { year, month, day, hour, minute, second, nanosecond, offset } else none

/-- A lenient layout: what stands between date and time, and whether seconds are written. -/
structure Layout where
  separator : Option Char
  seconds : Bool
deriving DecidableEq, Repr

/-- The lenient layouts in the order in which they are tried. -/
def layouts : List Layout :=
  [⟨none, true⟩, ⟨some 'T', true⟩, ⟨some 'T', false⟩, ⟨none, false⟩]

/-- A year of up to four digits, or of any number of digits behind a sign. -/
def readYear (s : List Char) : Option (Int × List Char) :=
  match s with
  | '-' :: s => (readNumber 1 s.length s).map fun (n, rest) => (-(n : Int), rest)
  | '+' :: s => (readNumber 1 s.length s).map fun (n, rest) => ((n : Int), rest)
  | s => (readNumber 1 4 s).map fun (n, rest) => ((n : Int), rest)

/-- A number of one or two digits behind any blanks. -/
def readShort (s : List Char) : Option (Nat × List Char) := readNumber 1 2 (Text.trimStart s)

/-- Colons and blanks in any number, or none. -/
def skipColons (s : List Char) : Option (List Char) :=
  some (s.dropWhile fun c => c == ':' || Text.isBlank c)

def Layout.read (l : Layout) (s : List Char) : Option Fields := do
  let (year, s) ← readYear (Text.trimStart s)
  let s ← Text.expect '-' s
  let (month, s) ← readShort s
  let s ← Text.expect '-' s
  let (day, s) ← readShort s
  let s ← match l.separator with
    | some c => Text.expect c s
    | none => some s
  let (hour, s) ← readShort s
  let s ← Text.expect ':' s
  let (minute, s) ← readShort s
  let (second, nanosecond, s) ←
    if l.seconds then do
      let s ← Text.expect ':' s
      let (second, s) ← readShort s
      let (nanosecond, s) ← readFraction s
      some (second, nanosecond, s)
    else some (0, 0, s)
  let (offset, s) ← readOffset skipColons (Text.trimStart s)
  if s = [] then some { year, month, day, hour, minute, second, nanosecond, offset } else none

/-- The readers in the order in which they are tried. -/
def readers : List (List Char → Option Timestamp) :=
  (readStrict · >>= Fields.timestamp?) :: layouts.map fun l s => l.read s >>= Fields.timestamp?

def ofText? (s : List Char) : Option Timestamp := readers.findSome? (· s)

end ColumnFilter.Timestamp
