import ColumnFilter.Proofs.Timestamp.Agreement

/-! # Well-formed timestamps

Offsets are written in hours and minutes, and a fraction makes less than a
second. So a leap second is the end of its minute in universal time as well,
wherever its clock stands, and comes behind all other moments up to the end of
that minute and before the next minute.
-/

namespace ColumnFilter

namespace Timestamp

open Text

def minute (t : Timestamp) : ℤ := t.seconds / 60

/-- The timestamp is in a second too many. -/
def IsLeap (t : Timestamp) : Prop := 1000000000 ≤ t.nanoseconds

instance : DecidablePred IsLeap := fun t => Nat.decLe 1000000000 t.nanoseconds

structure WellFormed (t : Timestamp) : Prop where
  offset_minutes : 60 ∣ t.offset
  lt_offset : -86400 < t.offset
  offset_lt : t.offset < 86400
  nanoseconds_lt : t.nanoseconds < 2000000000
  leap_second : t.IsLeap → t.seconds % 60 = 59

variable {n : ℕ} {x : ℤ} {s rest : List Char} {f : Fields} {t u : Timestamp}

theorem readFraction_lt (h : readFraction s = some (n, rest)) : n < 10 ^ 9 := by
  unfold readFraction at h
  split at h
  · next s =>
    have hd : Digits (s.takeWhile Char.isDigit) := fun _ => List.mem_takeWhile_imp
    split at h
    · cases h
    · next digits _ hs =>
      cases h
      exact nanosecondsOf_lt ((Prod.mk.inj hs).1 ▸ hd)
  · cases h
    decide

theorem dvd_of_readOffset {colon : List Char → Option (List Char)}
    (h : readOffset colon s = some (x, rest)) : 60 ∣ x := by
  obtain ⟨⟨sign, s₁⟩, -, h⟩ := Option.bind_eq_some_iff.1 h
  obtain ⟨⟨hours, s₂⟩, -, h⟩ := Option.bind_eq_some_iff.1 h
  obtain ⟨s₃, -, h⟩ := Option.bind_eq_some_iff.1 h
  obtain ⟨⟨minutes, s₄⟩, -, h⟩ := Option.bind_eq_some_iff.1 h
  obtain ⟨-, h⟩ := Option.ite_none_right_eq_some.1 h
  have hdvd : (60 : ℤ) ∣ 3600 * hours + 60 * minutes := by omega
  cases h
  exact hdvd.mul_left sign

theorem dvd_of_readZone (h : readZone s = some (x, rest)) : 60 ∣ x := by
  unfold readZone at h
  split at h
  · cases h
    exact dvd_zero 60
  · cases h
    exact dvd_zero 60
  · exact dvd_of_readOffset h

theorem limits_of_readEnd {seconds : Bool} {second nanosecond : ℕ}
    (h : readEnd seconds s = some ((second, nanosecond), x)) : nanosecond < 10 ^ 9 ∧ 60 ∣ x := by
  cases seconds with
  | false =>
    obtain ⟨⟨_, s₁⟩, ho, h⟩ := Option.bind_eq_some_iff.1 h
    obtain ⟨-, h⟩ := Option.ite_none_right_eq_some.1 h
    cases h
    exact ⟨by decide, dvd_of_readOffset ho⟩
  | true =>
    obtain ⟨s₁, -, h⟩ := Option.bind_eq_some_iff.1 h
    obtain ⟨⟨_, s₂⟩, -, h⟩ := Option.bind_eq_some_iff.1 h
    obtain ⟨⟨_, s₃⟩, hf, h⟩ := Option.bind_eq_some_iff.1 h
    obtain ⟨⟨_, _, s₃⟩, hs, h⟩ := Option.bind_eq_some_iff.1 h
    cases hs
    obtain ⟨⟨_, s₄⟩, ho, h⟩ := Option.bind_eq_some_iff.1 h
    obtain ⟨-, h⟩ := Option.ite_none_right_eq_some.1 h
    cases h
    exact ⟨readFraction_lt hf, dvd_of_readOffset ho⟩

theorem Reads.limits (h : Reads s f) : f.nanosecond < 10 ^ 9 ∧ 60 ∣ f.offset := by
  rcases h with h | ⟨l, -, h⟩
  · obtain ⟨c, u, v, w, x, -, -, -, -, hf, ho⟩ := readStrict_parts h
    exact ⟨readFraction_lt hf, dvd_of_readZone ho⟩
  · obtain ⟨u, v, -, -, he⟩ := l.exists_parts h
    exact limits_of_readEnd he

/-- An offset of whole minutes leaves a leap second at the end of a minute. -/
theorem Fields.wellFormed_of_timestamp? (h : f.timestamp? = some t) (hn : f.nanosecond < 10 ^ 9)
    (ho : 60 ∣ f.offset) : t.WellFormed := by
  obtain ⟨hr, h⟩ := Option.ite_none_right_eq_some.1 h
  cases h
  simp only [isInRange, Bool.and_eq_true, decide_eq_true_eq] at hr
  obtain ⟨⟨⟨⟨⟨⟨⟨⟨-, -⟩, -⟩, hsecond⟩, hoffset⟩, -⟩, -⟩, -⟩, -⟩ := hr
  obtain ⟨hlower, hupper⟩ : -86400 < f.offset ∧ f.offset < 86400 := by omega
  refine ⟨ho, hlower, hupper, ?_, fun hleap => ?_⟩
  · simp only
    split <;> omega
  · simp only [IsLeap] at hleap
    split at hleap
    · next h60 =>
      simp only [toSeconds, secondsInDay, h60]
      omega
    · omega

theorem wellFormed_of_mem_readers {read : List Char → Option Timestamp} (hr : read ∈ readers)
    (h : read s = some t) : t.WellFormed := by
  obtain ⟨f, hf, ht⟩ := exists_reads_of_mem_readers hr h
  obtain ⟨hn, ho⟩ := hf.limits
  exact Fields.wellFormed_of_timestamp? ht hn ho

theorem compare_eq_lt_iff : t.compare u = .lt ↔
    t.seconds < u.seconds ∨ t.seconds = u.seconds ∧ t.nanoseconds < u.nanoseconds := by
  rw [Timestamp.compare, Ordering.then_eq_lt, compare_lt_iff_lt, compare_eq_iff_eq,
    compare_lt_iff_lt]

theorem compare_of_minute_lt (h : t.minute < u.minute) : t.compare u = .lt := by
  unfold minute at h
  rw [compare_eq_lt_iff]
  omega

/-- A leap second comes behind the moments that are none up to the end of its minute. -/
theorem WellFormed.compare_leap_iff (ht : t.WellFormed) (hl : t.IsLeap) (hu : ¬ u.IsLeap) :
    u.compare t = .lt ↔ u.minute ≤ t.minute := by
  have hs := ht.leap_second hl
  unfold IsLeap at hl hu
  unfold minute
  rw [compare_eq_lt_iff]
  omega

end Timestamp

/-- Whichever reader takes a text for a timestamp, it is well formed: its leap seconds follow every
ordinary moment of their minute and of those before it, and precede the minutes behind it. -/
theorem Cell.wellFormed_of_ofText :
    (∀ raw t, ofText raw = .time t → t.WellFormed) ∧
      (∀ read ∈ Timestamp.readers, ∀ s t, read s = some t → t.WellFormed) ∧
      ∀ t : Timestamp, t.WellFormed → t.IsLeap → ∀ u : Timestamp,
        (¬ u.IsLeap → (u.compare t = .lt ↔ u.minute ≤ t.minute)) ∧
          (t.minute < u.minute → t.compare u = .lt) := by
  refine ⟨fun raw t h => ?_, fun read hr s t h => ?_, fun t ht hl u => ⟨fun hu => ?_, fun hu => ?_⟩⟩
  · obtain ⟨read, hr, h⟩ := List.exists_of_findSome?_eq_some (ofText_eq_time h)
    exact Timestamp.wellFormed_of_mem_readers hr h
  · exact Timestamp.wellFormed_of_mem_readers hr h
  · exact ht.compare_leap_iff hl hu
  · exact Timestamp.compare_of_minute_lt hu

/-- A leap second of an odd spelling, which comes between the last billionth of the second before it
and the beginning of the year. -/
theorem Cell.wellFormed_of_ofText_newYear :
    ofText "2017-1-1 0:59:60.25 +01 00" = .time ⟨1483228799, 1250000000, 3600⟩ ∧
      (⟨1483228799, 1250000000, 3600⟩ : Timestamp).WellFormed ∧
      (⟨some 'T', false⟩ : Timestamp.Layout).read "2017-1-1T0:59-2300".toList >>=
        Timestamp.Fields.timestamp? = some ⟨1483315140, 0, -82800⟩ ∧
      (⟨1483315140, 0, -82800⟩ : Timestamp).WellFormed ∧
      Timestamp.compare ⟨1483228799, 999999999, 0⟩ ⟨1483228799, 1250000000, 3600⟩ = .lt ∧
      Timestamp.compare ⟨1483228799, 1250000000, 3600⟩ ⟨1483228800, 0, 0⟩ = .lt := by
  have hleap : ofText "2017-1-1 0:59:60.25 +01 00" = .time ⟨1483228799, 1250000000, 3600⟩ := by
    decide +kernel
  have hshort : (⟨some 'T', false⟩ : Timestamp.Layout).read "2017-1-1T0:59-2300".toList >>=
      Timestamp.Fields.timestamp? = some ⟨1483315140, 0, -82800⟩ := by decide +kernel
  have hmem : (fun s => (⟨some 'T', false⟩ : Timestamp.Layout).read s >>=
      Timestamp.Fields.timestamp?) ∈ Timestamp.readers :=
    List.mem_cons_of_mem _ (List.mem_map_of_mem (by decide))
  obtain ⟨htext, hreader, horder⟩ := wellFormed_of_ofText
  have ht := htext _ _ hleap
  refine ⟨hleap, ht, hshort, hreader _ hmem _ _ hshort, ?_, ?_⟩
  · exact ((horder _ ht (by decide) _).1 (by decide)).2 (by decide)
  · exact (horder _ ht (by decide) _).2 (by decide)

end ColumnFilter
