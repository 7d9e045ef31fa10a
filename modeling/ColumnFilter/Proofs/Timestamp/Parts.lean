import ColumnFilter.Timestamp.Reader
import ColumnFilter.Proofs.Text.Padded

/-! # The parts of a written timestamp

The date, the time of day, the fraction and the offset in digits, and what the
readers make of them. A number is read up to its last digit, whatever stands
behind it.
-/

namespace ColumnFilter.Timestamp

open Text

def dateChars (year month day : ℕ) : List Char :=
  padded 4 year ++ '-' :: (padded 2 month ++ '-' :: padded 2 day)

def clockChars (hour minute : ℕ) : List Char := padded 2 hour ++ ':' :: padded 2 minute

def fractionChars : List (Fin 10) → List Char
  | [] => []
  | digits => '.' :: digitChars digits

def signChar (west : Bool) : Char := if west then '-' else '+'

def offsetChars (west colon : Bool) (hours minutes : ℕ) : List Char :=
  signChar west :: (padded 2 hours ++ ((if colon then [':'] else []) ++ padded 2 minutes))

def offsetSeconds (west : Bool) (hours minutes : ℕ) : ℤ :=
  (if west then -1 else 1) * (3600 * hours + 60 * minutes)

/-- The billionths that the first nine digits of a fraction make. -/
def billionths (digits : List (Fin 10)) : ℕ :=
  ∑ i ∈ Finset.range 9, (digits.getD i 0 : ℕ) * 10 ^ (8 - i)

theorem dateChars_append (year month day : ℕ) (s : List Char) : dateChars year month day ++ s =
    padded 4 year ++ '-' :: (padded 2 month ++ '-' :: (padded 2 day ++ s)) := by
  simp [dateChars]

/-- A date begins with a digit, and a sign stands behind its year. -/
theorem exists_cons_dateChars (year month day : ℕ) :
    ∃ c s, dateChars year month day = c :: s ∧ c.isDigit = true ∧ '-' ∈ s := by
  obtain ⟨c, s, hc, hd⟩ := exists_cons_padded (show 4 ≠ 0 by decide) year
  refine ⟨c, s ++ '-' :: (padded 2 month ++ '-' :: padded 2 day), ?_, hd, by simp⟩
  rw [dateChars, hc, List.cons_append]

theorem clockChars_append (hour minute : ℕ) (s : List Char) :
    clockChars hour minute ++ s = padded 2 hour ++ ':' :: (padded 2 minute ++ s) := by
  simp [clockChars]

theorem bind_of_eq_some {α β : Type} {x : Option α} {a : α} (h : x = some a) (f : α → Option β) :
    x >>= f = f a := by
  rw [h]
  rfl

variable {n least most : ℕ} {s rest : List Char}

theorem readNumber_padded (h : n < 10 ^ most) (hl : least ≤ most) (s : List Char) :
    readNumber least most (padded most n ++ s) = some (n, s) := by
  have ht : ((padded most n ++ s).take most).takeWhile Char.isDigit = padded most n := by
    rw [List.take_left' length_padded]
    exact List.takeWhile_eq_self_iff.2 digits_padded
  simp only [readNumber, ht, length_padded, if_pos hl, digitsValue_padded h,
    List.drop_left' length_padded]

theorem readNumber_two (h : n < 100) (s : List Char) :
    readNumber 2 2 (padded 2 n ++ s) = some (n, s) :=
  readNumber_padded (show n < 10 ^ 2 from h) le_rfl s

theorem readNumber_of_ends (h : Ends Char.isDigit s) (hl : least ≠ 0) :
    readNumber least most s = none := by
  have ht : (s.take most).takeWhile Char.isDigit = [] := by
    cases s with
    | nil => simp
    | cons c s => cases most <;> simp [Text.ends_cons.1 h]
  rw [readNumber, ht, if_neg (by simpa using hl)]

theorem trimStart_of_ends (h : Ends isBlank s) : trimStart s = s :=
  dropWhile_append_of_ends (s := []) (by simp) h

theorem trimStart_padded {w : ℕ} (hw : w ≠ 0) (n : ℕ) (s : List Char) :
    trimStart (padded w n ++ s) = padded w n ++ s := by
  obtain ⟨c, t, hc, hd⟩ := exists_cons_padded hw n
  rw [hc, List.cons_append]
  exact trimStart_of_ends (ends_cons.2 (not_isBlank_of_isDigit hd))

theorem readShort_padded (h : n < 100) (s : List Char) :
    readShort (padded 2 n ++ s) = some (n, s) := by
  rw [readShort, trimStart_padded (by decide),
    readNumber_padded (show n < 10 ^ 2 from h) (by decide)]

theorem readYear_of_isDigit {c : Char} (hc : c.isDigit = true) (s : List Char) :
    readYear (c :: s) = (readNumber 1 4 (c :: s)).map fun (n, rest) => ((n : ℤ), rest) := by
  unfold readYear
  split
  · next he =>
    obtain ⟨rfl, -⟩ := List.cons.inj he
    exact absurd hc (by decide)
  · next he =>
    obtain ⟨rfl, -⟩ := List.cons.inj he
    exact absurd hc (by decide)
  · rfl

theorem readYear_padded (h : n < 10000) (s : List Char) :
    readYear (padded 4 n ++ s) = some ((n : ℤ), s) := by
  have hr : readNumber 1 4 (padded 4 n ++ s) = some (n, s) :=
    readNumber_padded (show n < 10 ^ 4 from h) (by decide) s
  obtain ⟨c, t, hc, hd⟩ := exists_cons_padded (show 4 ≠ 0 by decide) n
  rw [hc, List.cons_append] at hr ⊢
  rw [readYear_of_isDigit hd, hr]
  rfl

theorem expect_cons (c : Char) (s : List Char) : expect c (c :: s) = some s := by
  simp [expect]

theorem expect_eq_some_iff {c : Char} : expect c s = some rest ↔ s = c :: rest := by
  cases s with
  | nil => simp [expect]
  | cons d s => simp [expect]

theorem expect_of_ne {c d : Char} (h : d ≠ c) (s : List Char) : expect c (d :: s) = none := by
  simp [expect, h]

theorem nanosecondsOf_digitChars (digits : List (Fin 10)) :
    nanosecondsOf (digitChars digits) = billionths digits := by
  rw [billionths, ← digitsValue_take_mul, nanosecondsOf, length_digitChars]
  rfl

theorem nanosecondsOf_lt {digits : List Char} (h : Digits digits) :
    nanosecondsOf digits < 10 ^ 9 := by
  have hlen : (digits.take 9).length + (9 - digits.length) = 9 := by
    rw [List.length_take]
    omega
  have hd : Digits (digits.take 9) := fun c hc => h c (List.mem_of_mem_take hc)
  calc nanosecondsOf digits
      < 10 ^ (digits.take 9).length * 10 ^ (9 - digits.length) :=
        Nat.mul_lt_mul_of_pos_right (digitsValue_lt hd) (Nat.pow_pos (by decide))
    _ = 10 ^ 9 := by rw [← Nat.pow_add, hlen]

theorem billionths_lt (digits : List (Fin 10)) : billionths digits < 10 ^ 9 := by
  rw [← nanosecondsOf_digitChars]
  exact nanosecondsOf_lt (digits_digitChars digits)

theorem exists_billionths_eq {n : ℕ} (h : n < 10 ^ 9) : ∃ digits, billionths digits = n := by
  obtain ⟨digits, hd⟩ := exists_digitChars_eq_padded 9 n
  have hlen : digits.length = 9 := by rw [← length_digitChars, hd, length_padded]
  refine ⟨digits, ?_⟩
  rw [← nanosecondsOf_digitChars, nanosecondsOf, hd, length_padded, List.take_of_length_le
    length_padded.le, digitsValue_padded h, Nat.sub_self]
  exact Nat.mul_one n

theorem readFraction_fractionChars (digits : List (Fin 10)) (hd : Ends Char.isDigit s)
    (hp : s.head? ≠ some '.') :
    readFraction (fractionChars digits ++ s) = some (billionths digits, s) := by
  cases digits with
  | nil =>
    rw [fractionChars, List.nil_append]
    unfold readFraction
    split
    · simp at hp
    · simp [billionths]
  | cons d ds =>
    have hds := digits_digitChars (d :: ds)
    rw [← nanosecondsOf_digitChars]
    simp only [fractionChars, List.cons_append, readFraction, spanDigits,
      takeWhile_append_of_ends hds hd, dropWhile_append_of_ends hds hd]
    rfl

theorem readSign_signChar (west : Bool) (s : List Char) :
    readSign (signChar west :: s) = some (if west then -1 else 1, s) := by
  cases west <;> rfl

theorem ends_offsetChars {p : Char → Bool} (hp : p '+' = false) (hm : p '-' = false)
    (west colon : Bool) (hours minutes : ℕ) : Ends p (offsetChars west colon hours minutes) := by
  cases west
  · exact ends_cons.2 hp
  · exact ends_cons.2 hm

theorem not_isBlank_offsetChars (west colon : Bool) (hours minutes : ℕ) :
    ∀ c ∈ offsetChars west colon hours minutes, isBlank c = false := by
  have hd (n : ℕ) : ∀ c ∈ padded 2 n, isBlank c = false := fun c hc =>
    not_isBlank_of_isDigit (digits_padded c hc)
  have hs : isBlank (signChar west) = false := by cases west <;> decide
  have hc : ∀ c ∈ if colon then [':'] else [], isBlank c = false := by
    cases colon
    · exact List.forall_mem_nil _
    · exact List.forall_mem_singleton.2 (by decide)
  exact List.forall_mem_cons.2
    ⟨hs, List.forall_mem_append.2 ⟨hd _, List.forall_mem_append.2 ⟨hc, hd _⟩⟩⟩

theorem natAbs_offsetSeconds (west : Bool) (hours minutes : ℕ) :
    (offsetSeconds west hours minutes).natAbs = 3600 * hours + 60 * minutes := by
  unfold offsetSeconds
  split <;> omega

section Offset

variable {hours minutes : ℕ} {skip : List Char → Option (List Char)} {west colon : Bool}

theorem readOffset_of_skip (hh : hours < 100) (hm : minutes < 100)
    (hs : skip ((if colon then [':'] else []) ++ padded 2 minutes) = some (padded 2 minutes)) :
    readOffset skip (offsetChars west colon hours minutes) =
      if minutes < 60 then some (offsetSeconds west hours minutes, []) else none := by
  have hr : readNumber 2 2 (padded 2 minutes) = some (minutes, []) := by
    simpa using readNumber_two hm []
  refine (bind_of_eq_some (readSign_signChar _ _) _).trans ?_
  refine (bind_of_eq_some (readNumber_two hh _) _).trans ?_
  refine (bind_of_eq_some hs _).trans ?_
  exact bind_of_eq_some hr _

theorem readOffset_of_skip_eq_none (hh : hours < 100)
    (hs : skip ((if colon then [':'] else []) ++ padded 2 minutes) = none) :
    readOffset skip (offsetChars west colon hours minutes) = none := by
  refine (bind_of_eq_some (readSign_signChar _ _) _).trans ?_
  refine (bind_of_eq_some (readNumber_two hh _) _).trans ?_
  exact (congrArg (· >>= _) hs).trans rfl

theorem readOffset_skipColons (hh : hours < 100) (hm : minutes < 100) :
    readOffset skipColons (offsetChars west colon hours minutes) =
      if minutes < 60 then some (offsetSeconds west hours minutes, []) else none := by
  refine readOffset_of_skip hh hm ?_
  obtain ⟨c, s, hs, hd⟩ := exists_cons_padded (show 2 ≠ 0 by decide) minutes
  have hc : (c == ':' || isBlank c) = false := by
    rw [not_isBlank_of_isDigit hd, Bool.or_false, beq_eq_false_iff_ne]
    rintro rfl
    exact absurd hd (by decide)
  cases colon <;> simp [skipColons, hs, hc]

theorem readZone_offsetChars (hh : hours < 100) (hm : minutes < 100) :
    readZone (offsetChars west colon hours minutes) =
      if colon ∧ minutes < 60 then some (offsetSeconds west hours minutes, []) else none := by
  have hz : readZone (offsetChars west colon hours minutes) =
      readOffset (expect ':') (offsetChars west colon hours minutes) := by
    cases west <;> rfl
  rw [hz]
  cases colon with
  | true => simpa using readOffset_of_skip hh hm (expect_cons ':' _)
  | false =>
    obtain ⟨c, s, hs, hd⟩ := exists_cons_padded (show 2 ≠ 0 by decide) minutes
    have hc : c ≠ ':' := by
      rintro rfl
      exact absurd hd (by decide)
    exact (readOffset_of_skip_eq_none hh (hs ▸ expect_of_ne hc s)).trans (by simp)

end Offset

end ColumnFilter.Timestamp
