import ColumnFilter.Proofs.Timestamp.Clock
import ColumnFilter.Proofs.Timestamp.DateTime

/-! # Timestamps in every layout

A date, a time of day with or without seconds, and an offset. A `T` or a blank
stands between date and time, and a colon or nothing in the offset. The readers
that do not fit a text refuse it, and those that fit read what is written.
-/

namespace ColumnFilter.Timestamp

open Text

theorem findSome?_eq_of_forall {α β : Type} {f : α → Option β} {x : Option β} {l : List α}
    (h : ∀ a ∈ l, f a = none ∨ f a = x) (hx : ∃ a ∈ l, f a = x) : l.findSome? f = x := by
  cases hs : l.findSome? f with
  | none =>
    obtain ⟨a, ha, rfl⟩ := hx
    exact (List.findSome?_eq_none_iff.1 hs a ha).symm
  | some b =>
    obtain ⟨a, ha, hb⟩ := List.exists_of_findSome?_eq_some hs
    rcases h a ha with h | h
    · cases hb.symm.trans h
    · exact hb.symm.trans h

/-- A date, a time of day and an offset in digits, of which nothing has been checked. -/
structure Written where
  year : Fin 10000
  month : Fin 100
  day : Fin 100
  hour : Fin 100
  minute : Fin 100
  /-- The second with the digits of its fraction, if they are written. -/
  second? : Option (Fin 100 × List (Fin 10))
  west : Bool
  hours : Fin 100
  minutes : Fin 100

def secondChars : Option (Fin 100 × List (Fin 10)) → List Char
  | none => []
  | some (second, fraction) => ':' :: (padded 2 second ++ fractionChars fraction)

namespace Written

def chars (w : Written) (blank colon : Bool) : List Char :=
  dateChars w.year w.month w.day ++ (if blank then ' ' else 'T') :: (clockChars w.hour w.minute ++
    (secondChars w.second? ++ offsetChars w.west colon w.hours w.minutes))

/-- A second that is not written is the first one of the minute. -/
def second (w : Written) : ℕ := w.second?.elim 0 fun s => s.1

def nanosecond (w : Written) : ℕ := w.second?.elim 0 fun s => billionths s.2

def offset (w : Written) : ℤ := offsetSeconds w.west w.hours w.minutes

def dateTime (w : Written) : DateTime :=
  ⟨⟨w.year, w.month, w.day⟩, w.hour, w.minute, w.second, w.nanosecond, w.offset⟩

/-- What is read, unless the offset has more minutes than an hour. -/
def fields? (w : Written) : Option Fields :=
  if w.minutes.val < 60 then some w.dateTime.fields else none

variable {w : Written} {blank colon : Bool}

theorem fields?_of_eq_none (h : w.second? = none) : w.fields? = if w.minutes.val < 60 then
    some ⟨w.year, w.month, w.day, w.hour, w.minute, 0, 0, w.offset⟩ else none := by
  rw [fields?, dateTime, DateTime.fields, second, nanosecond, h, Option.elim_none, Option.elim_none]

theorem fields?_of_eq_some {second : Fin 100} {fraction : List (Fin 10)}
    (h : w.second? = some (second, fraction)) : w.fields? = if w.minutes.val < 60 then
      some ⟨w.year, w.month, w.day, w.hour, w.minute, second, billionths fraction, w.offset⟩
    else none := by
  rw [fields?, dateTime, DateTime.fields, Written.second, nanosecond, h, Option.elim_some,
    Option.elim_some]

theorem readFraction_chars (w : Written) (colon : Bool) (fraction : List (Fin 10)) :
    readFraction (fractionChars fraction ++ offsetChars w.west colon w.hours w.minutes) =
      some (billionths fraction, offsetChars w.west colon w.hours w.minutes) :=
  readFraction_fractionChars fraction (ends_offsetChars (by decide) (by decide) _ _ _ _)
    (by cases w.west <;> simp [offsetChars, signChar])

theorem expect_offsetChars (w : Written) (colon : Bool) :
    expect ':' (offsetChars w.west colon w.hours w.minutes) = none :=
  expect_of_ne (by cases w.west <;> decide) _

theorem trimStart_offsetChars (w : Written) (colon : Bool) :
    trimStart (offsetChars w.west colon w.hours w.minutes) =
      offsetChars w.west colon w.hours w.minutes :=
  trimStart_of_ends (ends_offsetChars (by decide) (by decide) _ _ _ _)

/-- What comes last is nothing or the offset, and there is nothing behind it. -/
theorem bind_offset {p : Prop} [Decidable p] (x : ℤ) (f : ℤ → Fields) :
    ((if p then some (x, ([] : List Char)) else none) >>= fun (offset, s) =>
      if s = [] then some (f offset) else none) = if p then some (f x) else none := by
  split <;> rfl

theorem readStrict_chars : readStrict (w.chars blank colon) =
    if w.second?.isSome ∧ colon then w.fields? else none := by
  have hc : (if blank then ' ' else 'T') ∈ ['T', 't', ' '] := by cases blank <;> decide
  rw [chars, readStrict_clock w.year.isLt w.month.isLt w.day.isLt w.hour.isLt w.minute.isLt hc]
  cases hs : w.second? with
  | none =>
    rw [secondChars, List.nil_append, w.expect_offsetChars]
    rfl
  | some s =>
    obtain ⟨second, fraction⟩ := s
    rw [secondChars, List.cons_append, List.append_assoc, fields?_of_eq_some hs]
    refine (bind_of_eq_some (expect_cons _ _) _).trans ?_
    refine (bind_of_eq_some (readNumber_two second.isLt _) _).trans ?_
    refine (bind_of_eq_some (w.readFraction_chars colon fraction) _).trans ?_
    refine (congrArg (· >>= _) (readZone_offsetChars w.hours.isLt w.minutes.isLt)).trans ?_
    refine (bind_offset w.offset _).trans ?_
    cases colon <;> simp

/-- A lenient reader asks for a blank or a `T`, as the case may be, and for seconds or none. -/
theorem read_chars {l : Layout} (hl : l.separator = if blank then none else some 'T') :
    l.read (w.chars blank colon) =
      if l.seconds = w.second?.isSome then w.fields? else none := by
  have hc : l.separator = some (if blank then ' ' else 'T') ∨
      l.separator = none ∧ isBlank (if blank then ' ' else 'T') = true := by
    cases blank
    · exact .inl hl
    · exact .inr ⟨hl, by decide⟩
  rw [chars, Layout.read_clock w.year.isLt w.month.isLt w.day.isLt w.hour.isLt w.minute.isLt hc]
  have ho : readOffset skipColons (trimStart (offsetChars w.west colon w.hours w.minutes)) =
      if w.minutes.val < 60 then some (w.offset, []) else none := by
    rw [w.trimStart_offsetChars, readOffset_skipColons w.hours.isLt w.minutes.isLt]
    rfl
  cases hs : w.second? with
  | none =>
    rw [secondChars, List.nil_append, fields?_of_eq_none hs]
    cases l.seconds with
    | false =>
      refine (congrArg (· >>= _) ho).trans ?_
      exact bind_offset w.offset _
    | true =>
      refine (congrArg (· >>= _) (w.expect_offsetChars colon)).trans ?_
      rfl
  | some s =>
    obtain ⟨second, fraction⟩ := s
    rw [secondChars, List.cons_append, List.append_assoc, fields?_of_eq_some hs]
    cases l.seconds with
    | false => rfl
    | true =>
      refine (bind_of_eq_some (expect_cons _ _) _).trans ?_
      refine (bind_of_eq_some (readShort_padded second.isLt _) _).trans ?_
      refine (bind_of_eq_some (w.readFraction_chars colon fraction) _).trans ?_
      refine (congrArg (· >>= _) ho).trans ?_
      exact bind_offset w.offset _

theorem read_chars_of_ne {l : Layout} (hl : l.separator = if blank then some 'T' else none) :
    l.read (w.chars blank colon) = none := by
  refine Layout.read_eq_none w.year.isLt w.month.isLt w.day.isLt ?_
  rw [hl]
  cases blank
  · exact ⟨by decide, by decide⟩
  · show ' ' ≠ 'T'
    decide

def layout (w : Written) (blank : Bool) : Layout :=
  ⟨if blank then none else some 'T', w.second?.isSome⟩

theorem layout_mem (w : Written) (blank : Bool) : w.layout blank ∈ layouts := by
  rw [layout]
  cases blank <;> cases w.second?.isSome <;> decide

theorem readStrict_chars_eq_none_or (w : Written) (blank colon : Bool) :
    readStrict (w.chars blank colon) = none ∨ readStrict (w.chars blank colon) = w.fields? := by
  rw [readStrict_chars]
  split
  · exact .inr rfl
  · exact .inl rfl

theorem read_chars_eq_none_or {l : Layout} (hl : l ∈ layouts) (w : Written) (blank colon : Bool) :
    l.read (w.chars blank colon) = none ∨ l.read (w.chars blank colon) = w.fields? := by
  have hs : l.separator = (if blank then none else some 'T') ∨
      l.separator = if blank then some 'T' else none := by
    simp only [layouts, List.mem_cons, List.not_mem_nil, or_false] at hl
    rcases hl with rfl | rfl | rfl | rfl <;> cases blank <;> simp
  rcases hs with hs | hs
  · rw [read_chars hs]
    split
    · exact .inr rfl
    · exact .inl rfl
  · exact .inl (read_chars_of_ne hs)

/-- Whatever the separator and the colon, the text is read as what is written, or not at all. -/
theorem ofText?_chars (w : Written) (blank colon : Bool) :
    ofText? (w.chars blank colon) = w.fields? >>= Fields.timestamp? := by
  have hmem : (fun s => (w.layout blank).read s >>= Fields.timestamp?) ∈ readers :=
    List.mem_cons_of_mem _ (List.mem_map_of_mem (w.layout_mem blank))
  -- The readers that do not fit may come first, but none of them reads anything else.
  refine findSome?_eq_of_forall (fun read hr => ?_) ⟨_, hmem, ?_⟩
  · rcases List.mem_cons.1 hr with rfl | hr
    · exact (w.readStrict_chars_eq_none_or blank colon).imp
        (congrArg (· >>= Fields.timestamp?)) (congrArg (· >>= Fields.timestamp?))
    · obtain ⟨l, hl, rfl⟩ := List.mem_map.1 hr
      exact (read_chars_eq_none_or hl w blank colon).imp
        (congrArg (· >>= Fields.timestamp?)) (congrArg (· >>= Fields.timestamp?))
  · exact congrArg (· >>= Fields.timestamp?) ((read_chars rfl).trans (if_pos rfl))

end Written

end ColumnFilter.Timestamp
