import ColumnFilter.Proofs.Calendar.Days
import ColumnFilter.Timestamp
import Mathlib.Data.Int.Order.Basic
import Mathlib.Data.Prod.Lex

/-! # Dates and times of day

A date and time of day exists if the date does and the clock shows the time,
where a minute may have a sixty-first second. Its instant is counted in days
and in seconds of the day, and so is the timestamp that is made of it.
-/

namespace ColumnFilter.Timestamp

open Calendar (dayNumber)

structure DateTime where
  date : Calendar.Date
  hour : ℕ
  minute : ℕ
  second : ℕ
  nanosecond : ℕ
  /-- Seconds by which the clock is ahead of universal time. -/
  offset : ℤ
deriving DecidableEq, Repr

namespace DateTime

structure Exists (d : DateTime) : Prop where
  date : d.date.Exists
  hour_lt : d.hour < 24
  minute_lt : d.minute < 60
  second_le : d.second ≤ 60
  offset_lt : d.offset.natAbs < 86400

instance (d : DateTime) : Decidable d.Exists :=
  decidable_of_iff
    (d.date.Exists ∧ d.hour < 24 ∧ d.minute < 60 ∧ d.second ≤ 60 ∧ d.offset.natAbs < 86400)
    ⟨fun ⟨h₁, h₂, h₃, h₄, h₅⟩ => ⟨h₁, h₂, h₃, h₄, h₅⟩,
      fun h => ⟨h.date, h.hour_lt, h.minute_lt, h.second_le, h.offset_lt⟩⟩

/-- Seconds since 1970 in universal time, where a second too many is the one before it. -/
def seconds (d : DateTime) : ℤ :=
  d.date.number * 86400 + 3600 * d.hour + 60 * d.minute + min d.second 59 - d.offset

def nanoseconds (d : DateTime) : ℕ :=
  d.nanosecond + if d.second = 60 then 1000000000 else 0

def instant (d : DateTime) : ℤ ×ₗ ℕ := toLex (d.seconds, d.nanoseconds)

def timestamp (d : DateTime) : Timestamp := ⟨d.seconds, d.nanoseconds, d.offset⟩

def fields (d : DateTime) : Fields :=
  ⟨d.date.year, d.date.month, d.date.day, d.hour, d.minute, d.second, d.nanosecond, d.offset⟩

variable {d : DateTime}

theorem toSeconds_fields (h : d.date.Exists) : d.fields.toSeconds = d.seconds := by
  have hn : dayNumber d.date.year d.date.month d.date.day = d.date.number :=
    Calendar.dayNumber_eq h
  rw [Fields.toSeconds, seconds, ← hn]
  rfl

theorem nanoseconds_eq (d : DateTime) : d.nanoseconds =
    if d.second = 60 then d.nanosecond + 1000000000 else d.nanosecond := by
  rw [nanoseconds]
  split <;> rfl

/-- In the years of four digits no instant is out of range. -/
theorem seconds_bounds (hy : d.date.year < 10000) (h : d.Exists) :
    dayNumber firstYear 1 1 * secondsInDay ≤ d.seconds ∧
      d.seconds < dayNumber (lastYear + 1) 1 1 * secondsInDay := by
  obtain ⟨hd, hh, hm, -, ho⟩ := h
  have hb := Calendar.Date.number_bounds hy hd
  have hfirst : dayNumber firstYear 1 1 * secondsInDay ≤ -1000000000000 := by decide
  have hlast : 1000000000000 ≤ dayNumber (lastYear + 1) 1 1 * secondsInDay := by decide
  rw [seconds]
  omega

theorem isInRange_fields (hy : d.date.year < 10000) : d.fields.isInRange = true ↔ d.Exists := by
  simp only [Fields.isInRange, Bool.and_eq_true, decide_eq_true_eq, and_assoc]
  constructor
  · rintro ⟨hd, hh, hm, hs, ho, -⟩
    exact ⟨Calendar.isDate_iff.1 hd, hh, hm, hs, ho⟩
  · intro h
    have hfirst : firstYear ≤ d.date.year := by
      unfold firstYear
      omega
    have hlast : d.date.year ≤ lastYear := by
      unfold lastYear
      omega
    rw [toSeconds_fields h.date]
    exact ⟨Calendar.isDate_iff.2 h.date, h.hour_lt, h.minute_lt, h.second_le, h.offset_lt, hfirst,
      hlast, seconds_bounds hy h⟩

theorem timestamp?_fields (hy : d.date.year < 10000) :
    d.fields.timestamp? = if d.Exists then some d.timestamp else none := by
  by_cases h : d.Exists
  · rw [Fields.timestamp?, if_pos ((isInRange_fields hy).2 h), if_pos h, toSeconds_fields h.date,
      timestamp, nanoseconds_eq]
    rfl
  · rw [Fields.timestamp?, if_neg (mt (isInRange_fields hy).1 h), if_neg h]

theorem sameInstant_timestamp_iff {e : DateTime} :
    d.timestamp.sameInstant e.timestamp = true ↔ d.instant = e.instant := by
  rw [sameInstant, Bool.and_eq_true, beq_iff_eq, beq_iff_eq, instant, instant, toLex_inj,
    Prod.mk.injEq]
  rfl

end DateTime

end ColumnFilter.Timestamp
