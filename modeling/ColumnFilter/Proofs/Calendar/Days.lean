import ColumnFilter.Calendar
import Mathlib.Algebra.BigOperators.Group.Finset.Basic
import Mathlib.Algebra.BigOperators.Intervals
import Mathlib.Data.Nat.Notation
import Mathlib.Order.Interval.Finset.Nat
import Mathlib.Tactic.IntervalCases

/-! # Days counted one by one

A year has twelve months and its days are those of its months, so the days in
front of a date are those of the years, of the months and of the days before
it. The numbers of the calendar are these counts, taken from the first day of
the year 1970.
-/

namespace ColumnFilter.Calendar

open Finset

def IsLeap (year : ℕ) : Prop := 4 ∣ year ∧ (100 ∣ year → 400 ∣ year)

instance (year : ℕ) : Decidable (IsLeap year) :=
  inferInstanceAs (Decidable (4 ∣ year ∧ (100 ∣ year → 400 ∣ year)))

def monthLength (year month : ℕ) : ℕ :=
  if month = 2 then if IsLeap year then 29 else 28
  else if month ∈ [4, 6, 9, 11] then 30
  else 31

def yearLength (year : ℕ) : ℕ := ∑ month ∈ Ico 1 13, monthLength year month

structure Date where
  year : ℕ
  month : ℕ
  day : ℕ
deriving DecidableEq, Repr

namespace Date

/-- The dates of the Gregorian calendar from the year 0 on, before its introduction too. -/
structure Exists (d : Date) : Prop where
  month_pos : 1 ≤ d.month
  month_le : d.month ≤ 12
  day_pos : 1 ≤ d.day
  day_le : d.day ≤ monthLength d.year d.month

instance (d : Date) : Decidable d.Exists :=
  decidable_of_iff
    (1 ≤ d.month ∧ d.month ≤ 12 ∧ 1 ≤ d.day ∧ d.day ≤ monthLength d.year d.month)
    ⟨fun ⟨h₁, h₂, h₃, h₄⟩ => ⟨h₁, h₂, h₃, h₄⟩,
      fun h => ⟨h.month_pos, h.month_le, h.day_pos, h.day_le⟩⟩

/-- The number of days before the date, from the first of January of the year 0 on. -/
def daysBefore (d : Date) : ℕ :=
  ∑ year ∈ range d.year, yearLength year + ∑ month ∈ Ico 1 d.month, monthLength d.year month
    + (d.day - 1)

def number (d : Date) : ℤ := d.daysBefore - daysBefore ⟨1970, 1, 1⟩

end Date

variable {year month day : ℕ}

theorem isLeapYear_iff : isLeapYear year = true ↔ IsLeap year := by
  simp only [isLeapYear, IsLeap, Bool.and_eq_true, Bool.or_eq_true, beq_iff_eq, bne_iff_ne]
  omega

theorem daysInMonth_eq (h : 1 ≤ month ∧ month ≤ 12) :
    daysInMonth year month = monthLength year month := by
  have hl : (if isLeapYear year then 29 else 28) = if IsLeap year then 29 else 28 := by
    simp only [isLeapYear_iff]
  obtain ⟨h₁, h₂⟩ := h
  interval_cases month
  all_goals first | rfl | exact hl

theorem isDate_iff : isDate year month day = true ↔ Date.Exists ⟨year, month, day⟩ := by
  simp only [isDate, Bool.and_eq_true, decide_eq_true_eq]
  constructor
  · rintro ⟨hpos, hle⟩
    have hm : 1 ≤ month ∧ month ≤ 12 := by
      by_contra hm
      have h0 : daysInMonth year month = 0 := by
        unfold daysInMonth
        split <;> first | rfl | omega
      omega
    exact ⟨hm.1, hm.2, hpos, daysInMonth_eq hm ▸ hle⟩
  · intro h
    exact ⟨h.day_pos, daysInMonth_eq ⟨h.month_pos, h.month_le⟩ ▸ h.day_le⟩

theorem daysBeforeMonth_eq (h : month ≤ 13) :
    daysBeforeMonth year month = ∑ m ∈ Ico 1 month, monthLength year m := by
  induction month with
  | zero => rfl
  | succ m ih =>
    rw [daysBeforeMonth, ih (by omega)]
    rcases Nat.eq_zero_or_pos m with rfl | hm
    · rfl
    · rw [sum_Ico_succ_top hm, daysInMonth_eq ⟨hm, by omega⟩]

theorem daysInMonth_le (year : ℤ) (month : ℕ) : daysInMonth year month ≤ 31 := by
  unfold daysInMonth
  split <;> first | decide | split <;> decide

theorem daysBeforeMonth_le (year : ℤ) (month : ℕ) : daysBeforeMonth year month ≤ 31 * month := by
  induction month with
  | zero => rfl
  | succ m ih =>
    have hm := daysInMonth_le year m
    rw [daysBeforeMonth]
    omega

theorem yearLength_eq : yearLength year = if IsLeap year then 366 else 365 := by
  rw [yearLength, ← daysBeforeMonth_eq le_rfl]
  simp only [daysBeforeMonth, daysInMonth, isLeapYear_iff]
  split <;> rfl

theorem daysBeforeYear_succ (year : ℕ) :
    daysBeforeYear (year + 1 : ℕ) = daysBeforeYear year + yearLength year := by
  rw [yearLength_eq]
  unfold daysBeforeYear
  split
  · next h =>
    unfold IsLeap at h
    omega
  · next h =>
    unfold IsLeap at h
    omega

theorem daysBefore_newYear (year : ℕ) :
    Date.daysBefore ⟨year, 1, 1⟩ = ∑ y ∈ range year, yearLength y := by
  simp [Date.daysBefore]

theorem daysBeforeYear_eq (year : ℕ) :
    daysBeforeYear year = Date.daysBefore ⟨year, 1, 1⟩ := by
  rw [daysBefore_newYear]
  induction year with
  | zero => rfl
  | succ y ih => rw [daysBeforeYear_succ, ih, sum_range_succ, Int.natCast_add]

/-- The number of a date is the count of the days from the beginning of 1970, which is less than
nothing for the dates before. -/
theorem dayNumber_eq (h : Date.Exists ⟨year, month, day⟩) :
    dayNumber year month day = Date.number ⟨year, month, day⟩ := by
  have hd : 1 ≤ day := h.day_pos
  have h₀ : daysBeforeYear 1970 = Date.daysBefore ⟨1970, 1, 1⟩ :=
    mod_cast daysBeforeYear_eq 1970
  have hb : Date.daysBefore ⟨year, month, day⟩ =
      Date.daysBefore ⟨year, 1, 1⟩ + daysBeforeMonth year month + (day - 1) := by
    rw [daysBefore_newYear, daysBeforeMonth_eq (Nat.le_succ_of_le h.month_le), Date.daysBefore]
  rw [dayNumber, Date.number, h₀, daysBeforeYear_eq, hb]
  omega

theorem Date.Exists.day_le_thirtyOne {d : Date} (h : d.Exists) : d.day ≤ 31 := calc
  d.day ≤ monthLength d.year d.month := h.day_le
  _ = daysInMonth d.year d.month := (daysInMonth_eq ⟨h.month_pos, h.month_le⟩).symm
  _ ≤ 31 := daysInMonth_le d.year d.month

theorem Date.number_bounds {d : Date} (hy : d.year < 10000) (h : d.Exists) :
    -1000000 ≤ d.number ∧ d.number ≤ 4000000 := by
  obtain ⟨year, month, day⟩ := d
  have hy : year < 10000 := hy
  have hm : month ≤ 12 := h.month_le
  have hd : day ≤ 31 := h.day_le_thirtyOne
  have hb := daysBeforeMonth_le year month
  rw [← dayNumber_eq h, dayNumber, daysBeforeYear, daysBeforeYear]
  omega

end ColumnFilter.Calendar
