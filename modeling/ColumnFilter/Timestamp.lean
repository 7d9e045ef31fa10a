import ColumnFilter.Calendar

/-! # Timestamps

An instant with the offset at which it was written. A leap second is the last
second of its minute with a billion nanoseconds or more, so instants compare
by seconds and then by nanoseconds.
-/

namespace ColumnFilter

structure Timestamp where
  /-- Seconds since the beginning of 1970, in universal time. -/
  seconds : Int
  nanoseconds : Nat
  /-- Seconds east of universal time. -/
  offset : Int
deriving DecidableEq, Repr

namespace Timestamp

def compare (a b : Timestamp) : Ordering :=
  (Ord.compare a.seconds b.seconds).then (Ord.compare a.nanoseconds b.nanoseconds)

def sameInstant (a b : Timestamp) : Bool :=
  a.seconds == b.seconds && a.nanoseconds == b.nanoseconds

/-- A date and time of day as written, of which nothing has been checked. -/
structure Fields where
  year : Int
  month : Nat
  day : Nat
  hour : Nat
  minute : Nat
  second : Nat
  nanosecond : Nat
  offset : Int
deriving DecidableEq, Repr

def firstYear : Int := -262143

def lastYear : Int := 262142

def secondsInDay : Int := 86400

namespace Fields

/-- Seconds since 1970 in universal time; a sixtieth second counts as the one before it. -/
def toSeconds (f : Fields) : Int :=
  Calendar.dayNumber f.year f.month f.day * secondsInDay + 3600 * f.hour + 60 * f.minute
    + min f.second 59 - f.offset

def isInRange (f : Fields) : Bool :=
  Calendar.isDate f.year f.month f.day
    && decide (f.hour < 24) && decide (f.minute < 60) && decide (f.second ≤ 60)
    && decide (f.offset.natAbs < 86400)
    && decide (firstYear ≤ f.year) && decide (f.year ≤ lastYear)
    && decide (Calendar.dayNumber firstYear 1 1 * secondsInDay ≤ f.toSeconds)
    && decide (f.toSeconds < Calendar.dayNumber (lastYear + 1) 1 1 * secondsInDay)

/-- The instant, if the date exists and every field is in its range. -/
def timestamp? (f : Fields) : Option Timestamp :=
  if f.isInRange then
    some ⟨f.toSeconds, if f.second = 60 then f.nanosecond + 1000000000 else f.nanosecond, f.offset⟩
  else none

end Fields

end Timestamp

end ColumnFilter
