import ColumnFilter.Proofs.Timestamp.Parts

/-! # Reading up to the minute

The date and the time of day without its seconds begin every layout. What is
left to a reader behind them depends on the layout and on the rest of the text,
unless it expects something else between the two and refuses the text there.
-/

namespace ColumnFilter.Timestamp

open Text

variable {year month day hour minute : ℕ} {c : Char} {rest : List Char}

/-- The strict reader is through with the date and the time up to the minute. -/
theorem readStrict_clock (hy : year < 10000) (hm : month < 100) (hd : day < 100) (hh : hour < 100)
    (hmi : minute < 100) (hc : c ∈ ['T', 't', ' ']) :
    readStrict (dateChars year month day ++ c :: (clockChars hour minute ++ rest)) = (do
      let s ← expect ':' rest
      let (second, s) ← readNumber 2 2 s
      let (nanosecond, s) ← readFraction s
      let (offset, s) ← readZone s
      if s = [] then some { year, month, day, hour, minute, second, nanosecond, offset }
      else none) := by
  have hy (s : List Char) : readNumber 4 4 (padded 4 year ++ s) = some (year, s) :=
    readNumber_padded (show year < 10 ^ 4 from hy) le_rfl s
  have hs (s : List Char) :
      (expect 'T' (c :: s) <|> expect 't' (c :: s) <|> expect ' ' (c :: s)) = some s := by
    simp only [List.mem_cons, List.not_mem_nil, or_false] at hc
    rcases hc with rfl | rfl | rfl <;> rfl
  -- One part of the text is read at a time: what is behind it is left as it stands.
  rw [dateChars_append, clockChars_append]
  refine (bind_of_eq_some (hy _) _).trans ?_
  refine (bind_of_eq_some (expect_cons _ _) _).trans ?_
  refine (bind_of_eq_some (readNumber_two hm _) _).trans ?_
  refine (bind_of_eq_some (expect_cons _ _) _).trans ?_
  refine (bind_of_eq_some (readNumber_two hd _) _).trans ?_
  refine (bind_of_eq_some (hs _) _).trans ?_
  refine (bind_of_eq_some (readNumber_two hh _) _).trans ?_
  refine (bind_of_eq_some (expect_cons _ _) _).trans ?_
  exact bind_of_eq_some (readNumber_two hmi _) _

theorem Layout.read_date (l : Layout) (hy : year < 10000) (hm : month < 100) (hd : day < 100) :
    l.read (dateChars year month day ++ rest) = (do
      let s ← match l.separator with
        | some c => expect c rest
        | none => some rest
      let (hour, s) ← readShort s
      let s ← expect ':' s
      let (minute, s) ← readShort s
      let (second, nanosecond, s) ←
        if l.seconds then do
          let s ← expect ':' s
          let (second, s) ← readShort s
          let (nanosecond, s) ← readFraction s
          some (second, nanosecond, s)
        else some (0, 0, s)
      let (offset, s) ← readOffset skipColons (trimStart s)
      if s = [] then some { year, month, day, hour, minute, second, nanosecond, offset }
      else none) := by
  have hy (s : List Char) : readYear (trimStart (padded 4 year ++ s)) = some ((year : ℤ), s) := by
    rw [trimStart_padded (by decide), readYear_padded hy]
  rw [dateChars_append]
  refine (bind_of_eq_some (hy _) _).trans ?_
  refine (bind_of_eq_some (expect_cons _ _) _).trans ?_
  refine (bind_of_eq_some (readShort_padded hm _) _).trans ?_
  refine (bind_of_eq_some (expect_cons _ _) _).trans ?_
  exact bind_of_eq_some (readShort_padded hd _) _

theorem Layout.read_clock {l : Layout} (hy : year < 10000) (hm : month < 100) (hd : day < 100)
    (hh : hour < 100) (hmi : minute < 100)
    (hc : l.separator = some c ∨ l.separator = none ∧ isBlank c = true) :
    l.read (dateChars year month day ++ c :: (clockChars hour minute ++ rest)) = (do
      let (second, nanosecond, s) ←
        if l.seconds then do
          let s ← expect ':' rest
          let (second, s) ← readShort s
          let (nanosecond, s) ← readFraction s
          some (second, nanosecond, s)
        else some (0, 0, rest)
      let (offset, s) ← readOffset skipColons (trimStart s)
      if s = [] then some { year, month, day, hour, minute, second, nanosecond, offset }
      else none) := by
  rw [l.read_date hy hm hd, clockChars_append]
  obtain ⟨separator, seconds⟩ := l
  rcases hc with rfl | ⟨rfl, hc⟩
  · refine (bind_of_eq_some (expect_cons _ _) _).trans ?_
    refine (bind_of_eq_some (readShort_padded hh _) _).trans ?_
    refine (bind_of_eq_some (expect_cons _ _) _).trans ?_
    exact bind_of_eq_some (readShort_padded hmi _) _
  · have hh (s : List Char) : readShort (c :: (padded 2 hour ++ s)) = some (hour, s) := by
      rw [← readShort_padded hh s, readShort, readShort, trimStart, List.dropWhile_cons, if_pos hc]
      rfl
    refine (bind_of_eq_some (hh _) _).trans ?_
    refine (bind_of_eq_some (expect_cons _ _) _).trans ?_
    exact bind_of_eq_some (readShort_padded hmi _) _

theorem Layout.read_eq_none {l : Layout} (hy : year < 10000) (hm : month < 100) (hd : day < 100)
    (hc : match l.separator with
      | some d => c ≠ d
      | none => isBlank c = false ∧ c.isDigit = false) :
    l.read (dateChars year month day ++ c :: rest) = none := by
  rw [l.read_date hy hm hd]
  obtain ⟨separator, seconds⟩ := l
  cases separator with
  | some d => exact (congrArg (· >>= _) (expect_of_ne hc rest)).trans rfl
  | none =>
    have hr : readShort (c :: rest) = none := by
      rw [readShort, trimStart_of_ends (ends_cons.2 hc.1),
        readNumber_of_ends (ends_cons.2 hc.2) (by decide)]
    exact (congrArg (· >>= _) hr).trans rfl

end ColumnFilter.Timestamp
