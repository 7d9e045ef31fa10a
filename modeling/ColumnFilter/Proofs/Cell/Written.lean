import ColumnFilter.Proofs.Cell.Order
import ColumnFilter.Proofs.Timestamp.Internet
import ColumnFilter.Proofs.Timestamp.Written

/-! # Written timestamps in cells

A text in one of the layouts stands for its instant if the date exists, the
clock shows the time and the offset is less than a day, and for itself
otherwise. Texts of one instant are equal in whatever layout and with whatever
offset they are written.
-/

namespace ColumnFilter

open Timestamp (DateTime Fields Written dateChars)
open Text (Ends)

theorem Numeral.ofText?_dateChars (year month day : ℕ) (s : List Char) :
    Numeral.ofText? (dateChars year month day ++ s) = none := by
  obtain ⟨c, t, hc, hd, ht⟩ := Timestamp.exists_cons_dateChars year month day
  rw [hc, List.cons_append, Option.eq_none_iff_forall_ne_some]
  intro n hn
  obtain ⟨negative, digits, hsign, -, hdigits, -⟩ := Numeral.ofText?_eq_some_iff.1 hn
  rcases Numeral.splitSign_cases hsign with ⟨he, -⟩ | ⟨he, -⟩ | ⟨rfl, -⟩
  · obtain ⟨rfl, -⟩ := List.cons.inj he
    exact absurd hd (by decide)
  · obtain ⟨rfl, -⟩ := List.cons.inj he
    exact absurd hd (by decide)
  · exact absurd (hdigits '-' (by simp [ht])) (by decide)

theorem Cell.ofText_dateChars {year month day : ℕ} {s last : List Char} (hs : last <:+ s)
    (hne : last ≠ []) (hb : ∀ c ∈ last, Text.isBlank c = false) :
    Cell.ofText (String.ofList (dateChars year month day ++ s)) =
      (Timestamp.ofText? (dateChars year month day ++ s)).elim
        (.text (String.ofList (dateChars year month day ++ s))) .time := by
  have hfirst : Ends Text.isBlank (dateChars year month day ++ s) := by
    obtain ⟨c, t, hc, hd, -⟩ := Timestamp.exists_cons_dateChars year month day
    rw [hc, List.cons_append]
    exact Text.ends_cons.2 (Text.not_isBlank_of_isDigit hd)
  have hlast : Ends Text.isBlank (dateChars year month day ++ s).reverse :=
    Text.ends_of_prefix (List.reverse_prefix.2 (hs.trans (List.suffix_append _ _)))
      (List.reverse_ne_nil_iff.2 hne) fun c hc => hb c (List.mem_reverse.1 hc)
  rw [Cell.ofText, String.toList_ofList, Text.trim_of_ends hfirst hlast]
  simp only [Numeral.ofText?_dateChars]
  cases Timestamp.ofText? (dateChars year month day ++ s) <;> rfl

theorem Cell.order_of_time {a b : String} {d e : DateTime} (ha : ofText a = .time d.timestamp)
    (hb : ofText b = .time e.timestamp) : order a b = Ord.compare d.instant e.instant := by
  rw [order, ha, hb, compare?, Option.getD_some, Timestamp.compare_eq]
  rfl

theorem Cell.ofText_of_spells {s : List Char} {d : DateTime} (h : d.Spells s) :
    Cell.ofText (String.ofList s) = .time d.timestamp := by
  have ht := h.ofText?_eq
  obtain ⟨-, -, -, -, hz⟩ := h
  refine (Cell.ofText_dateChars ?_ hz.ne_nil hz.not_isBlank).trans (by rw [ht]; rfl)
  exact (List.suffix_append _ _).trans <| (List.suffix_append _ _).trans <|
    (List.suffix_cons _ _).trans <| (List.suffix_append _ _).trans (List.suffix_cons _ _)

theorem Cell.order_of_spells {a b : String} {d e : DateTime} (ha : d.Spells a.toList)
    (hb : e.Spells b.toList) : order a b = Ord.compare d.instant e.instant := by
  have ha := ofText_of_spells ha
  have hb := ofText_of_spells hb
  rw [String.ofList_toList] at ha hb
  exact order_of_time ha hb

namespace Timestamp.Written

structure Possible (w : Written) : Prop where
  date : Calendar.Date.Exists ⟨w.year, w.month, w.day⟩
  hour_lt : w.hour.val < 24
  minute_lt : w.minute.val < 60
  second_le : w.second ≤ 60
  hours_lt : w.hours.val < 24
  minutes_lt : w.minutes.val < 60

def text (w : Written) (blank colon : Bool) : String := String.ofList (w.chars blank colon)

variable {w v : Written} {blank colon blank' colon' : Bool}

theorem possible_iff : w.Possible ↔ w.minutes.val < 60 ∧ w.dateTime.Exists := by
  have ho (hm : w.minutes.val < 60) : w.offset.natAbs < 86400 ↔ w.hours.val < 24 := by
    rw [offset, natAbs_offsetSeconds]
    omega
  constructor
  · rintro ⟨hd, hh, hmi, hs, hho, hm⟩
    exact ⟨hm, hd, hh, hmi, hs, (ho hm).2 hho⟩
  · rintro ⟨hm, hd, hh, hmi, hs, hho⟩
    exact ⟨hd, hh, hmi, hs, (ho hm).1 hho, hm⟩

instance (w : Written) : Decidable w.Possible := decidable_of_iff _ possible_iff.symm

theorem timestamp?_fields? (w : Written) :
    w.fields? >>= Fields.timestamp? = if w.Possible then some w.dateTime.timestamp else none := by
  rw [fields?]
  by_cases hm : w.minutes.val < 60
  · have hp : w.Possible ↔ w.dateTime.Exists := possible_iff.trans (and_iff_right hm)
    rw [if_pos hm]
    simp only [hp]
    exact DateTime.timestamp?_fields w.year.isLt
  · rw [if_neg hm, if_neg fun h : w.Possible => hm h.minutes_lt]
    rfl

theorem ofText_text (w : Written) (blank colon : Bool) : Cell.ofText (w.text blank colon) =
    if w.Possible then .time w.dateTime.timestamp else .text (w.text blank colon) := by
  have hlast : offsetChars w.west colon w.hours w.minutes <:+
      (if blank then ' ' else 'T') :: (clockChars w.hour w.minute ++
        (secondChars w.second? ++ offsetChars w.west colon w.hours w.minutes)) :=
    (List.suffix_append _ _).trans ((List.suffix_append _ _).trans (List.suffix_cons _ _))
  rw [text, chars, Cell.ofText_dateChars hlast (List.cons_ne_nil _ _)
    (not_isBlank_offsetChars _ _ _ _), ← chars, ofText?_chars, timestamp?_fields?]
  split <;> rfl

/-- A text in one of the layouts stands for the timestamp that its digits denote, if there is such a
date and time and such an offset, and for itself otherwise. Timestamps are ordered and equal as
their instants, whatever the layouts and the offsets. -/
theorem ofText_written (w : Written) (blank colon : Bool) :
    Cell.ofText (w.text blank colon) =
        (if w.Possible then .time w.dateTime.timestamp else .text (w.text blank colon)) ∧
      (w.Possible → ∀ (v : Written) (blank' colon' : Bool), v.Possible →
        Cell.order (w.text blank colon) (v.text blank' colon') =
            Ord.compare w.dateTime.instant v.dateTime.instant ∧
          (Cell.same (Cell.ofText (w.text blank colon))
              (Cell.ofText (v.text blank' colon')) = true ↔
            w.dateTime.instant = v.dateTime.instant)) := by
  refine ⟨w.ofText_text blank colon, fun hw v blank' colon' hv => ?_⟩
  have ht : Cell.ofText (w.text blank colon) = .time w.dateTime.timestamp := by
    rw [ofText_text, if_pos hw]
  have hu : Cell.ofText (v.text blank' colon') = .time v.dateTime.timestamp := by
    rw [ofText_text, if_pos hv]
  refine ⟨Cell.order_of_time ht hu, ?_⟩
  rw [ht, hu]
  exact DateTime.sameInstant_timestamp_iff

def leapSecond : Written := ⟨2016, 12, 31, 23, 59, some (60, [⟨5, by decide⟩]), false, 0, 0⟩

def leapSecondInIndia : Written :=
  ⟨2017, 1, 1, 5, 29, some (60, [⟨5, by decide⟩, ⟨0, by decide⟩]), false, 5, 30⟩

theorem instant_leapSecond : leapSecond.dateTime.instant = toLex (1483228799, 1500000000) ∧
    leapSecondInIndia.dateTime.instant = toLex (1483228799, 1500000000) := by
  have hw : leapSecond.dateTime.date.Exists := by decide
  have hv : leapSecondInIndia.dateTime.date.Exists := by decide
  rw [DateTime.instant, DateTime.instant, ← DateTime.toSeconds_fields hw,
    ← DateTime.toSeconds_fields hv]
  decide

theorem ofText_written_leapSecond :
    leapSecond.Possible ∧ leapSecondInIndia.Possible ∧
      Cell.ofText "2016-12-31T23:59:60.5+00:00" = .time leapSecond.dateTime.timestamp ∧
      Cell.order "2016-12-31T23:59:60.5+00:00" "2017-01-01 05:29:60.50+0530" = .eq := by
  have hw : leapSecond.Possible := by decide
  have hv : leapSecondInIndia.Possible := by decide
  have ht : leapSecond.text false true = "2016-12-31T23:59:60.5+00:00" := by decide
  have hu : leapSecondInIndia.text true false = "2017-01-01 05:29:60.50+0530" := by decide
  obtain ⟨h₁, h₂⟩ := ofText_written leapSecond false true
  have ho := (h₂ hw leapSecondInIndia true false hv).1
  rw [ht, if_pos hw] at h₁
  rw [ht, hu, instant_leapSecond.1, instant_leapSecond.2] at ho
  exact ⟨hw, hv, h₁, ho.trans Std.ReflCmp.compare_self⟩

end Timestamp.Written

end ColumnFilter
