import ColumnFilter.Numeral
import ColumnFilter.Proofs.Json.Layout

/-! # Integers of JSON

An integer is written with a minus or without one, and never with a zero before
other digits. It is taken as it is just if it fits 64 bits, with a sign where it
has a minus, and is no zero with a minus. Any other integer is read as a double,
if there is one as great.
-/

namespace ColumnFilter

open Text (Digits Ends digitsValue)

/-- Digits without a needless zero before them, with a minus or without one. -/
structure Numeral.Integral (n : Numeral) : Prop where
  digits : Digits n.digits
  ne_nil : n.digits ≠ []
  zero : n.digits.head? = some '0' → n.digits = ['0']

/-- The integer is one of 64 bits, with a sign if it is negative, and a zero has no minus. -/
def Numeral.Fits (n : Numeral) : Prop :=
  -2 ^ 63 ≤ n.toInt ∧ n.toInt < 2 ^ 64 ∧ (n.toInt = 0 → n.negative = false)

instance (n : Numeral) : Decidable n.Fits := inferInstanceAs (Decidable (_ ∧ _ ∧ _))

theorem Numeral.fits_iff (n : Numeral) : n.Fits ↔ digitsValue n.digits < UInt64.size ∧
    (n.negative = true → digitsValue n.digits ≠ 0 ∧ digitsValue n.digits ≤ UInt64.size / 2) := by
  have hsize : UInt64.size = 2 ^ 64 := rfl
  rw [hsize]
  unfold Fits toInt
  cases n.negative with
  | false =>
    simp only [Bool.false_eq_true, if_false, IsEmpty.forall_iff, implies_true, and_true]
    omega
  | true =>
    simp only [Bool.true_eq_false, if_true, forall_const, imp_false]
    omega

namespace Json

variable {n : Numeral} {s rest : List Char} {c : Char} {depth : ℕ}

namespace Written

theorem absorb_step (m : ℕ) (c : Char) (s : List Char) :
    (10 * m + Text.digitValue c) * 10 ^ s.length + digitsValue s =
      m * 10 ^ (c :: s).length + digitsValue (c :: s) := by
  rw [Text.digitsValue_cons, List.length_cons]
  ring

theorem absorb_of_lt {m : ℕ} (h : m * 10 ^ s.length + digitsValue s < UInt64.size) :
    absorb m s = (m * 10 ^ s.length + digitsValue s, []) := by
  induction s generalizing m with
  | nil => simp [absorb, digitsValue]
  | cons c s ih =>
    rw [← absorb_step] at h ⊢
    have hle : 10 * m + Text.digitValue c ≤ (10 * m + Text.digitValue c) * 10 ^ s.length :=
      Nat.le_mul_of_pos_right _ (Nat.pow_pos (by decide))
    rw [absorb, if_pos (by omega), ih h]

theorem absorb_of_le {m : ℕ} (hm : m < UInt64.size)
    (h : UInt64.size ≤ m * 10 ^ s.length + digitsValue s) : (absorb m s).2 ≠ [] := by
  induction s generalizing m with
  | nil =>
    simp only [List.length_nil, Nat.pow_zero, Nat.mul_one] at h
    exact absurd h (Nat.not_le.2 hm)
  | cons c s ih =>
    rw [← absorb_step] at h
    rw [absorb]
    split
    · next hlt => exact ih hlt h
    · exact List.cons_ne_nil _ _

def ofNumeral (n : Numeral) : Written := ⟨n.negative, n.digits, none, none⟩

theorem significand_ofNumeral (n : Numeral) :
    (ofNumeral n).significand = ((absorb 0 n.digits).1, ((absorb 0 n.digits).2.length : ℤ)) := by
  simp [significand, ofNumeral, absorb]

theorem significand_of_lt (h : digitsValue n.digits < UInt64.size) :
    (ofNumeral n).significand = (digitsValue n.digits, 0) := by
  have ha := absorb_of_lt (m := 0) (s := n.digits) (by simpa using h)
  rw [significand_ofNumeral, ha, Nat.zero_mul, Nat.zero_add]
  rfl

theorem value_of_fits (h : n.Fits) (rest : List Char) :
    (ofNumeral n).value rest = .ok (.whole n.toInt) := by
  obtain ⟨hlt, hneg⟩ := n.fits_iff.1 h
  unfold value
  simp only [significand_of_lt hlt]
  cases hn : n.negative with
  | false => simp [ofNumeral, hn, Numeral.toInt]
  | true => simp [ofNumeral, hn, Numeral.toInt, hneg hn]

/-- Where digits are left over or the minus is in the way, a double is made of the digits. -/
theorem value_of_not_fits (h : ¬ n.Fits) : ∃ m exponent, ∀ rest, (ofNumeral n).value rest =
    match scale? m exponent with
    | some x => .ok ((ofNumeral n).signed x)
    | none => .error (.here .numberOutOfRange rest) := by
  by_cases hlt : digitsValue n.digits < UInt64.size
  · have hneg : n.negative = true ∧
        ¬ (digitsValue n.digits ≠ 0 ∧ digitsValue n.digits ≤ UInt64.size / 2) := by
      rwa [n.fits_iff, and_iff_right hlt, Classical.not_imp] at h
    refine ⟨digitsValue n.digits, 0, fun rest => ?_⟩
    unfold value
    simp only [significand_of_lt hlt]
    refine (if_neg (by simp [ofNumeral])).trans ?_
    refine (if_neg (not_not.2 hneg.1)).trans ?_
    exact if_neg hneg.2
  · have hd := absorb_of_le (m := 0) (s := n.digits) (by decide) (by simpa using hlt)
    have hs : ((absorb 0 n.digits).2.length : ℤ) ≠ 0 := by simpa using hd
    refine ⟨(absorb 0 n.digits).1, (absorb 0 n.digits).2.length, fun rest => ?_⟩
    unfold value
    simp only [significand_ofNumeral]
    exact if_pos (.inr hs)

end Written

def continuesInteger (c : Char) : Bool := c.isDigit || c == '.' || c == 'e' || c == 'E'

theorem readDigits_append {fault : List Char → Fault} {ds : List Char} (hd : Digits ds)
    (hne : ds ≠ []) (hr : Ends Char.isDigit rest) :
    readDigits fault (ds ++ rest) = .ok (ds, rest) := by
  obtain ⟨c, ds, rfl⟩ := List.exists_cons_of_ne_nil hne
  rw [List.cons_append, readDigits, if_pos (Text.digits_cons.1 hd).1, Text.spanDigits,
    ← List.cons_append, Text.takeWhile_append_of_ends hd hr, Text.dropWhile_append_of_ends hd hr]

theorem readWhole_digits (hn : n.Integral) (hr : Ends Char.isDigit rest) :
    readWhole (n.digits ++ rest) = .ok (n.digits, rest) := by
  obtain ⟨c, ds, hc⟩ := List.exists_cons_of_ne_nil hn.ne_nil
  by_cases hz : c = '0'
  · subst hz
    rw [hn.zero (by rw [hc]; rfl)]
    cases rest with
    | nil => rfl
    | cons d rest => exact if_neg (Bool.eq_false_iff.1 (Text.ends_cons.1 hr))
  · have hd : Digits (c :: ds) := hc ▸ hn.digits
    rw [hc, List.cons_append]
    unfold readWhole
    split
    · next he => exact absurd (List.cons.inj he).1 hz
    · exact readDigits_append hd (List.cons_ne_nil c ds) hr

theorem readWritten_append {n : Numeral} (hn : n.Integral) (hs : Ends Char.isDigit s) :
    readWritten (n.chars ++ s) = (do
      let (fraction, s) ← readFraction s
      let (exponent, s) ← readExponent s
      return (⟨n.negative, n.digits, fraction, exponent⟩, s)) := by
  have hwhole := readWhole_digits hn hs
  unfold readWritten
  cases hneg : n.negative with
  | true =>
    rw [Numeral.chars, if_pos hneg, List.cons_append]
    simp only [hwhole, bind, Except.bind]
  | false =>
    rw [Numeral.chars, if_neg (Bool.eq_false_iff.1 hneg)]
    -- What begins with a digit does not begin with a minus.
    obtain ⟨c, ds, hc⟩ := List.exists_cons_of_ne_nil hn.ne_nil
    have hm : c ≠ '-' := by
      rintro rfl
      exact absurd (Text.digits_cons.1 (hc ▸ hn.digits)).1 (by decide)
    split
    next negative t ht =>
      rw [hc, List.cons_append] at ht
      split at ht
      · next he => exact absurd (List.cons.inj he).1 hm
      · obtain ⟨rfl, rfl⟩ := Prod.mk.inj ht
        rw [← List.cons_append, ← hc]
        simp only [hwhole, bind, Except.bind]

theorem readWritten_chars (hn : n.Integral) (hr : Ends continuesInteger rest) :
    readWritten (n.chars ++ rest) = .ok (.ofNumeral n, rest) := by
  have hd : Ends Char.isDigit rest := fun c hc => by
    have := hr c hc
    simp_all [continuesInteger]
  have hfraction : readFraction rest = .ok (none, rest) := by
    unfold readFraction
    split
    · exact absurd (Text.ends_cons.1 hr) (by decide)
    · rfl
  have hexponent : readExponent rest = .ok (none, rest) := by
    cases rest with
    | nil => rfl
    | cons c rest =>
      have := Text.ends_cons.1 hr
      simp_all [continuesInteger, readExponent]
  rw [readWritten_append hn hd, hfraction]
  simp only [bind, Except.bind, hexponent]
  rfl

theorem readNumber_chars (hn : n.Integral) (hr : Ends continuesInteger rest) :
    readNumber (n.chars ++ rest) = ((Written.ofNumeral n).value rest).map (·, rest) := by
  rw [readNumber, readWritten_chars hn hr]
  rfl

theorem exists_cons_chars (hn : n.Integral) :
    ∃ c t, n.chars = c :: t ∧ isNumberStart c = true := by
  unfold Numeral.chars
  split
  · exact ⟨_, _, rfl, rfl⟩
  · obtain ⟨c, ds, hc⟩ := List.exists_cons_of_ne_nil hn.ne_nil
    refine ⟨c, ds, hc, ?_⟩
    rw [isNumberStart, (Text.digits_cons.1 (hc ▸ hn.digits)).1, Bool.or_true]

theorem ne_of_isNumberStart {c d : Char} (hc : isNumberStart c = true)
    (hd : isNumberStart d = false) : c ≠ d := by
  rintro rfl
  rw [hd] at hc
  cases hc

theorem isBlank_of_isNumberStart {c : Char} (h : isNumberStart c = true) : isBlank c = false := by
  have hne (d : Char) (hd : isNumberStart d = false) : c ≠ d := ne_of_isNumberStart h hd
  simp only [isBlank, Bool.or_eq_false_iff, beq_eq_false_iff_ne]
  exact ⟨⟨⟨hne _ rfl, hne _ rfl⟩, hne _ rfl⟩, hne _ rfl⟩

theorem readValue_of_isNumberStart (hc : isNumberStart c = true) (s : List Char) :
    readValue depth (c :: s) = (readNumber (c :: s)).map fun (n, rest) => (number n, rest) := by
  have hne (d : Char) (hd : isNumberStart d = false) : c ≠ d := ne_of_isNumberStart hc hd
  unfold readValue
  simp only [skipBlanks_cons (isBlank_of_isNumberStart hc)]
  rw [if_neg (hne _ rfl), if_neg (hne _ rfl), if_neg (hne _ rfl), if_pos hc]

theorem readsAs_number {x : Number} (depth : ℕ) (hc : isNumberStart c = true)
    (h : ReadsAs readNumber (c :: s) x) : ReadsAs (readValue depth) (c :: s) (number x) := by
  intro d rest hd
  have hx := h d rest hd
  rw [List.cons_append] at hx ⊢
  rw [readValue_of_isNumberStart hc, hx]
  rfl

theorem ends_append {b : List Char} (hb : Blanks b) (hs : Ends continuesInteger s) :
    Ends continuesInteger (b ++ s) := by
  cases b with
  | nil => exact hs
  | cons c b =>
    have hc := hb c List.mem_cons_self
    simp only [isBlank, Bool.or_eq_true, beq_iff_eq] at hc
    rcases hc with ((rfl | rfl) | rfl) | rfl <;> exact Text.ends_cons.2 rfl

theorem ends_of_isEnd {after : List Char} (h : IsEnd after) : Ends continuesInteger after := by
  obtain ⟨b, b', hb, -, rfl⟩ := h
  exact ends_append hb (Text.ends_cons.2 rfl)

theorem readValue_chars (hn : n.Integral) (hr : Ends continuesInteger rest) :
    readValue depth (n.chars ++ rest) =
      ((Written.ofNumeral n).value rest).map fun v => (number v, rest) := by
  have hr := readNumber_chars hn hr
  obtain ⟨c, t, ht, hc⟩ := exists_cons_chars hn
  rw [ht, List.cons_append] at hr ⊢
  rw [readValue_of_isNumberStart hc, hr]
  cases (Written.ofNumeral n).value rest <;> rfl

theorem readsAs_chars (depth : ℕ) (hn : n.Integral) (hf : n.Fits) :
    ReadsAs (readValue depth) n.chars (number (.whole n.toInt)) := by
  intro c rest hc
  have hr : Ends continuesInteger (c :: rest) := by
    rcases hc with rfl | rfl <;> exact Text.ends_cons.2 rfl
  rw [readValue_chars hn hr, Written.value_of_fits hf]
  rfl

section OneMember

variable {name text : String}

theorem parse_of_fits (hn : n.Integral) (h : OneMember name n.chars text.toList) (hf : n.Fits) :
    parse text = .ok (object [(name, number (.whole n.toInt))]) := by
  refine parse_oneMember_ok h fun after ha => ?_
  rw [readValue_chars hn (ends_of_isEnd ha), Written.value_of_fits hf]
  rfl

theorem parse_of_not_fits (hn : n.Integral) (h : OneMember name n.chars text.toList)
    (hf : ¬ n.Fits) : (∃ x, parse text = .ok (object [(name, number (.real x))])) ∨
      ∃ e, parse text = .error e := by
  obtain ⟨m, exponent, hv⟩ := Written.value_of_not_fits hf
  cases hx : Written.scale? m exponent with
  | some x =>
    refine .inl ⟨if n.negative then -x else x, parse_oneMember_ok h fun after ha => ?_⟩
    rw [readValue_chars hn (ends_of_isEnd ha), hv, hx]
    rfl
  | none =>
    refine .inr (parse_oneMember_error h fun after ha => ?_)
    rw [readValue_chars hn (ends_of_isEnd ha), hv, hx]
    exact ⟨_, rfl⟩

end OneMember

end Json

end ColumnFilter
