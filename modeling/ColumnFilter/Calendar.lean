/-! # The calendar

The Gregorian calendar without a beginning or an end, in which the year 0
exists. Days are numbered from the first of January 1970.
-/

namespace ColumnFilter.Calendar

def isLeapYear (year : Int) : Bool :=
  year % 4 == 0 && (year % 100 != 0 || year % 400 == 0)

def daysInMonth (year : Int) : Nat → Nat
  | 1 | 3 | 5 | 7 | 8 | 10 | 12 => 31
  | 4 | 6 | 9 | 11 => 30
  | 2 => if isLeapYear year then 29 else 28
  | _ => 0

/-- Days of the year before the first of a month. -/
def daysBeforeMonth (year : Int) : Nat → Nat
  | 0 => 0
  | m + 1 => daysBeforeMonth year m + daysInMonth year m

/-- Days from the first of January of the year 0; each fourth year, less the centuries that are no
multiple of four hundred, has one more than 365. -/
def daysBeforeYear (year : Int) : Int :=
  365 * year + (year + 3) / 4 - (year + 99) / 100 + (year + 399) / 400

def dayNumber (year : Int) (month day : Nat) : Int :=
  daysBeforeYear year + daysBeforeMonth year month + day - 1 - daysBeforeYear 1970

/-- Whether the date exists. -/
def isDate (year : Int) (month day : Nat) : Bool :=
  decide (1 ≤ day) && decide (day ≤ daysInMonth year month)

end ColumnFilter.Calendar
