import ColumnFilter.Proofs.Numeral.Order

/-! # One numeral for each integer

A numeral without leading zeros is the only one of its integer, and writing it
gives a text from which it is read again. Reading a text therefore gives the
same numeral as any other text of the same integer.
-/

namespace ColumnFilter.Numeral

open Text (Digits digitsValue)

variable {a b n : Numeral}

theorem normalize_of_normal (h : n.Normal) : normalize n.negative n.digits = n := by
  obtain ⟨negative, digits⟩ := n
  cases digits with
  | nil => exact absurd rfl h.ne_nil
  | cons c rest =>
    by_cases hc : c = '0'
    · subst hc
      cases h.zero rfl
      rfl
    · simp [normalize, hc]

theorem Normal.splitSign_chars (h : n.Normal) :
    Text.splitSign n.chars = (n.negative, n.digits) := by
  unfold chars
  cases hn : n.negative with
  | false => exact splitSign_of_digits h.digits
  | true => rfl

theorem Normal.ofText?_chars (h : n.Normal) : ofText? n.chars = some n :=
  ofText?_eq_some_iff.2
    ⟨_, _, h.splitSign_chars, h.ne_nil, h.digits, normalize_of_normal h⟩

theorem Normal.digits_eq (ha : a.Normal) (hb : b.Normal)
    (h : digitsValue a.digits = digitsValue b.digits) : a.digits = b.digits := by
  have hm : a.compareMagnitude b = .eq := by
    rw [compareMagnitude_eq ha hb, h, Nat.compare_eq_eq]
  exact Std.LawfulEqOrd.eq_of_compare (Ordering.then_eq_eq.1 hm).2

theorem Normal.not_negative (h : n.Normal) (hn : n.toInt = 0) : n.negative = false := by
  by_contra hneg
  have hpos := h.digitsValue_pos (eq_true_of_ne_false hneg)
  rw [toInt, if_pos (eq_true_of_ne_false hneg)] at hn
  omega

/-- Of the numerals in normal form no two denote one integer. -/
theorem Normal.eq_of_toInt_eq (ha : a.Normal) (hb : b.Normal) (h : a.toInt = b.toInt) :
    a = b := by
  obtain ⟨s, ds⟩ := a
  obtain ⟨t, es⟩ := b
  cases s with
  | false =>
    cases t with
    | false =>
      have hd : ds = es := ha.digits_eq hb (Int.ofNat_inj.1 h)
      rw [hd]
    | true =>
      have hpos := hb.digitsValue_pos rfl
      have h : (digitsValue ds : ℤ) = -digitsValue es := h
      simp only at hpos
      omega
  | true =>
    cases t with
    | false =>
      have hpos := ha.digitsValue_pos rfl
      have h : -(digitsValue ds : ℤ) = digitsValue es := h
      simp only at hpos
      omega
    | true =>
      have hd : ds = es := ha.digits_eq hb (Int.ofNat_inj.1 (Int.neg_inj.1 h))
      rw [hd]

theorem spells_toString (x : ℤ) : Spells (toString x).toList x := by
  have hd (n : ℕ) : Nat.toDigits 10 n ≠ [] ∧ Digits (Nat.toDigits 10 n) :=
    ⟨Nat.toDigits_ne_nil, fun _ =>
      Nat.isDigit_of_mem_toDigits (b := 10) (by decide) (by decide)⟩
  have hv (n : ℕ) : value (Nat.toDigits 10 n) = n := by
    rw [value, ← Text.digitsValue_eq_ofDigits]
    exact Nat.ofDigitChars_toDigits (by decide) (by decide)
  rw [Int.toString_eq_repr]
  cases x with
  | ofNat n =>
    have h := Spells.plain (hd n).1 (hd n).2
    rw [hv] at h
    rwa [Int.repr, Nat.toList_repr]
  | negSucc n =>
    have h := Spells.minus (hd (n + 1)).1 (hd (n + 1)).2
    rw [hv] at h
    rw [Int.repr, String.toList_append, Nat.toList_repr]
    exact h

/-- The texts of integers are those that are read, and what is read is the one numeral of the
integer: it is without leading zeros, and the order and the equality of numerals are those of the
integers. -/
theorem ofText?_represents (s : List Char) :
    ((ofText? s).isSome ↔ ∃ x, Spells s x) ∧
      ∀ m, ofText? s = some m →
        (∀ x, Spells s x ↔ m.toInt = x) ∧
          (m.digits ≠ [] ∧ Digits m.digits ∧ (m.digits.head? = some '0' → m.digits = ['0']) ∧
            (m.toInt = 0 → m.negative = false)) ∧
          ofText? m.chars = some m ∧
          ∀ t n, ofText? t = some n →
            (m = n ↔ m.toInt = n.toInt) ∧ m.compare n = Ord.compare m.toInt n.toInt := by
  refine ⟨?_, fun m hm => ?_⟩
  · rw [Option.isSome_iff_exists]
    constructor
    · rintro ⟨m, hm⟩
      exact ⟨_, spells_iff.2 ⟨m, hm, rfl⟩⟩
    · rintro ⟨x, hx⟩
      obtain ⟨m, hm, -⟩ := spells_iff.1 hx
      exact ⟨m, hm⟩
  · have hn := normal_of_ofText? hm
    have hx (x : ℤ) : Spells s x ↔ m.toInt = x := by
      rw [spells_iff]
      refine ⟨?_, fun hx => ⟨m, hm, hx⟩⟩
      rintro ⟨m', hm', rfl⟩
      rw [Option.some.inj (hm.symm.trans hm')]
    have hz (h0 : m.digits.head? = some '0') : m.digits = ['0'] := congrArg digits (hn.zero h0)
    refine ⟨hx, ⟨hn.ne_nil, hn.digits, hz, hn.not_negative⟩, hn.ofText?_chars, fun t n hr => ?_⟩
    have hn' := normal_of_ofText? hr
    exact ⟨⟨congrArg toInt, hn.eq_of_toInt_eq hn'⟩, compare_eq hn hn'⟩

/-- A zero with a minus and leading zeros is the plain zero, and stands above minus ten. -/
theorem ofText?_represents_minusZero :
    ofText? ['-', '0', '0'] = some ⟨false, ['0']⟩ ∧
      ofText? ['-', '1', '0'] = some ⟨true, ['1', '0']⟩ ∧
      (∀ x, Spells ['-', '0', '0'] x ↔ 0 = x) ∧
      (⟨false, ['0']⟩ : Numeral).compare ⟨true, ['1', '0']⟩ = Ord.compare (0 : ℤ) (-10) := by
  have h := (ofText?_represents ['-', '0', '0']).2 ⟨false, ['0']⟩ (by decide)
  exact ⟨by decide, by decide, h.1, (h.2.2.2 ['-', '1', '0'] ⟨true, ['1', '0']⟩ (by decide)).2⟩

end ColumnFilter.Numeral
