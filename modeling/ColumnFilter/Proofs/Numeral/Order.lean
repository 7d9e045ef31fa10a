import ColumnFilter.Numeral
import ColumnFilter.Proofs.Text.Digits
import ColumnFilter.Proofs.Text.Runs

/-! # Numerals and integers

A sign and digits spell an integer. The numeral read from them denotes it, is
without leading zeros, and is negative only below zero, so numerals stand in the
order of the integers.
-/

namespace ColumnFilter.Numeral

open Text (Digits digitValue digitsValue)

/-- The natural number with the given digits to the base ten, the last of them the units. -/
def value (digits : List Char) : ℕ := Nat.ofDigits 10 (digits.map digitValue).reverse

/-- The text is a sign or none and then digits, and the integer is what they denote. -/
inductive Spells : List Char → ℤ → Prop
  | plain {digits : List Char} : digits ≠ [] → Digits digits → Spells digits (value digits)
  | plus {digits : List Char} : digits ≠ [] → Digits digits → Spells ('+' :: digits) (value digits)
  | minus {digits : List Char} :
      digits ≠ [] → Digits digits → Spells ('-' :: digits) (-value digits)

theorem Spells.not_isBlank {s : List Char} {x : ℤ} (h : Spells s x) :
    ∀ c ∈ s, Text.isBlank c = false := by
  have hb {digits : List Char} (hd : Digits digits) : ∀ c ∈ digits, Text.isBlank c = false :=
    fun c hc => Text.not_isBlank_of_isDigit (hd c hc)
  cases h with
  | plain _ hd => exact hb hd
  | plus _ hd => exact List.forall_mem_cons.2 ⟨by decide, hb hd⟩
  | minus _ hd => exact List.forall_mem_cons.2 ⟨by decide, hb hd⟩

/-- No leading zeros, and no sign for zero. -/
structure Normal (n : Numeral) : Prop where
  digits : Digits n.digits
  ne_nil : n.digits ≠ []
  zero : n.digits.head? = some '0' → n = ⟨false, ['0']⟩

theorem normal_normalize {digits : List Char} (h : Digits digits) (negative : Bool) :
    (normalize negative digits).Normal := by
  have hd : Digits (digits.dropWhile (· = '0')) := fun c hc =>
    h c ((List.dropWhile_suffix _).subset hc)
  have hz := Text.ends_dropWhile (· = '0') digits
  unfold normalize
  split
  · exact ⟨by simp, by simp, fun _ => rfl⟩
  next rest hne =>
  refine ⟨hd, hne, fun h0 => ?_⟩
  exact absurd (hz '0' h0) (by decide)

theorem toInt_normalize (negative : Bool) (digits : List Char) :
    (normalize negative digits).toInt =
      if negative then -(digitsValue digits : ℤ) else digitsValue digits := by
  rw [← Text.digitsValue_dropWhile_zero digits]
  unfold normalize
  split
  next h =>
    rw [h]
    cases negative <;> rfl
  next => rfl

theorem splitSign_of_digits {digits : List Char} (h : Digits digits) :
    Text.splitSign digits = (false, digits) := by
  unfold Text.splitSign
  split
  · exact absurd (Text.digits_cons.1 h).1 (by decide)
  · exact absurd (Text.digits_cons.1 h).1 (by decide)
  · rfl

theorem splitSign_cases {s digits : List Char} {negative : Bool}
    (h : Text.splitSign s = (negative, digits)) :
    s = '-' :: digits ∧ negative = true ∨ s = '+' :: digits ∧ negative = false ∨
      s = digits ∧ negative = false := by
  unfold Text.splitSign at h
  split at h <;> cases h <;> simp

theorem ofText?_eq_some_iff {s : List Char} {n : Numeral} : ofText? s = some n ↔
    ∃ negative digits, Text.splitSign s = (negative, digits) ∧ digits ≠ [] ∧ Digits digits ∧
      normalize negative digits = n := by
  rcases h : Text.splitSign s with ⟨negative, digits⟩
  simp only [ofText?, h, Option.ite_none_left_eq_some, not_or, not_not, Text.all_isDigit_iff,
    and_assoc, Option.some.injEq, Prod.mk.injEq]
  exact ⟨fun hn => ⟨_, _, rfl, rfl, hn⟩, fun ⟨_, _, h₁, h₂, hn⟩ => h₁ ▸ h₂ ▸ hn⟩

theorem normal_of_ofText? {s : List Char} {n : Numeral} (h : ofText? s = some n) : n.Normal := by
  obtain ⟨negative, digits, _, _, hd, rfl⟩ := ofText?_eq_some_iff.1 h
  exact normal_normalize hd negative

theorem digits_tail_of_ofText? {s : List Char} {n : Numeral} (h : ofText? s = some n) :
    Digits s.tail := by
  obtain ⟨negative, digits, hs, -, hd, -⟩ := ofText?_eq_some_iff.1 h
  rcases splitSign_cases hs with ⟨rfl, -⟩ | ⟨rfl, -⟩ | ⟨rfl, -⟩
  · exact hd
  · exact hd
  · exact fun c hc => hd c (List.mem_of_mem_tail hc)

/-- A text spells an integer just when a numeral is read from it that denotes the integer. -/
theorem spells_iff {s : List Char} {x : ℤ} :
    Spells s x ↔ ∃ n, ofText? s = some n ∧ n.toInt = x := by
  have hv (negative : Bool) (digits : List Char) : (normalize negative digits).toInt =
      if negative then -(value digits : ℤ) else value digits := by
    rw [toInt_normalize, Text.digitsValue_eq_ofDigits]
    rfl
  constructor
  · intro h
    cases h with
    | plain hne hd =>
      exact ⟨_, ofText?_eq_some_iff.2 ⟨_, _, splitSign_of_digits hd, hne, hd, rfl⟩, hv _ _⟩
    | plus hne hd => exact ⟨_, ofText?_eq_some_iff.2 ⟨_, _, rfl, hne, hd, rfl⟩, hv _ _⟩
    | minus hne hd => exact ⟨_, ofText?_eq_some_iff.2 ⟨_, _, rfl, hne, hd, rfl⟩, hv _ _⟩
  · rintro ⟨n, hn, rfl⟩
    obtain ⟨negative, digits, hs, hne, hd, rfl⟩ := ofText?_eq_some_iff.1 hn
    rw [hv]
    rcases splitSign_cases hs with ⟨rfl, rfl⟩ | ⟨rfl, rfl⟩ | ⟨rfl, rfl⟩
    · exact .minus hne hd
    · exact .plus hne hd
    · exact .plain hne hd

theorem Normal.digitsValue_pos {n : Numeral} (h : n.Normal) (hn : n.negative = true) :
    0 < digitsValue n.digits := by
  obtain ⟨negative, digits⟩ := n
  cases digits with
  | nil => exact absurd rfl h.ne_nil
  | cons c rest =>
    have hc : c ≠ '0' := by
      rintro rfl
      cases h.zero rfl
      cases hn
    have hp := Text.pow_le_digitsValue (Text.digits_cons.1 h.digits).1 hc rest
    exact Nat.lt_of_lt_of_le (by simp) hp

theorem Normal.digitsValue_lt {a b : Numeral} (ha : a.Normal) (hb : b.Normal)
    (h : a.digits.length < b.digits.length) : digitsValue a.digits < digitsValue b.digits := by
  obtain ⟨negative, digits⟩ := b
  cases digits with
  | nil => exact absurd rfl hb.ne_nil
  | cons c rest =>
    have hpos := List.length_pos_iff.2 ha.ne_nil
    have hc : c ≠ '0' := by
      rintro rfl
      cases hb.zero rfl
      simp only [List.length_singleton] at h
      omega
    calc digitsValue a.digits < 10 ^ a.digits.length := Text.digitsValue_lt ha.digits
      _ ≤ 10 ^ rest.length := Nat.pow_le_pow_right (by decide) (Nat.lt_succ_iff.1 h)
      _ ≤ _ := Text.pow_le_digitsValue (Text.digits_cons.1 hb.digits).1 hc rest

theorem compareMagnitude_eq {a b : Numeral} (ha : a.Normal) (hb : b.Normal) :
    a.compareMagnitude b = Ord.compare (digitsValue a.digits) (digitsValue b.digits) := by
  unfold compareMagnitude
  rcases Nat.lt_trichotomy a.digits.length b.digits.length with h | h | h
  · rw [Nat.compare_eq_lt.2 h, Ordering.lt_then, Nat.compare_eq_lt.2 (ha.digitsValue_lt hb h)]
  · rw [Nat.compare_eq_eq.2 h, Ordering.eq_then, Text.compare_digits h ha.digits hb.digits]
  · rw [Nat.compare_eq_gt.2 h, Ordering.gt_then, Nat.compare_eq_gt.2 (hb.digitsValue_lt ha h)]

theorem compare_natCast (m n : ℕ) : Ord.compare (m : ℤ) (n : ℤ) = Ord.compare m n :=
  Text.compareOfLessAndEq_congr Int.ofNat_lt Int.natCast_inj

theorem compare_neg_natCast (m n : ℕ) : Ord.compare (-m : ℤ) (-n : ℤ) = Ord.compare n m :=
  Text.compareOfLessAndEq_congr (by rw [Int.neg_lt_neg_iff, Int.ofNat_lt])
    (by rw [Int.neg_inj, Int.natCast_inj, eq_comm])

/-- Numerals without leading zeros stand in the order of the integers that they denote. -/
theorem compare_eq {a b : Numeral} (ha : a.Normal) (hb : b.Normal) :
    a.compare b = Ord.compare a.toInt b.toInt := by
  unfold compare toInt
  cases hna : a.negative with
  | false =>
    cases hnb : b.negative with
    | false => simpa [compare_natCast] using compareMagnitude_eq ha hb
    | true =>
      have hpos := hb.digitsValue_pos hnb
      exact (Int.compare_eq_gt.2 (by simp; omega)).symm
  | true =>
    cases hnb : b.negative with
    | false =>
      have hpos := ha.digitsValue_pos hna
      exact (Int.compare_eq_lt.2 (by simp; omega)).symm
    | true => simpa [compare_neg_natCast] using compareMagnitude_eq hb ha

end ColumnFilter.Numeral
