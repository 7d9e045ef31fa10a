import ColumnFilter.Proofs.Text.Order
import ColumnFilter.Text.Blank
import ColumnFilter.Text.Digits
import Mathlib.Data.List.Induction
import Mathlib.Data.Nat.Digits.Defs
import Mathlib.Tactic.Ring

/-! # Numbers in digits

A run of digits denotes a number to the base ten. Runs of one length stand in
the order of their numbers, and of two runs without a leading zero the longer
one denotes the greater number.
-/

namespace ColumnFilter.Text

def Digits (s : List Char) : Prop := ∀ c ∈ s, c.isDigit = true

@[simp] theorem digits_nil : Digits [] := by simp [Digits]

@[simp] theorem digits_cons {c : Char} {s : List Char} :
    Digits (c :: s) ↔ c.isDigit = true ∧ Digits s := by simp [Digits]

theorem all_isDigit_iff {s : List Char} : s.all Char.isDigit = true ↔ Digits s := List.all_eq_true

theorem isDigit_iff {c : Char} : c.isDigit = true ↔ 48 ≤ c.toNat ∧ c.toNat ≤ 57 := by
  simp only [Char.isDigit, Bool.and_eq_true, decide_eq_true_eq]
  rfl

theorem not_isBlank_of_isDigit {c : Char} (h : c.isDigit = true) : isBlank c = false := by
  have hc := isDigit_iff.1 h
  simp only [isBlank, blanks, Ranges.has, Bool.and_eq_false_iff, Bool.or_eq_false_iff,
    decide_eq_false_iff_not]
  omega

theorem digitValue_lt {c : Char} (h : c.isDigit = true) : digitValue c < 10 := by
  have hc := isDigit_iff.1 h
  change c.toNat - 48 < 10
  omega

theorem digitValue_eq_zero_iff {c : Char} (h : c.isDigit = true) : digitValue c = 0 ↔ c = '0' := by
  have hc := isDigit_iff.1 h
  rw [← Char.toNat_inj]
  change c.toNat - 48 = 0 ↔ c.toNat = 48
  omega

theorem compare_digit {c d : Char} (hc : c.isDigit = true) (hd : d.isDigit = true) :
    compare c d = compare (digitValue c) (digitValue d) := by
  have hc := isDigit_iff.1 hc
  have hd := isDigit_iff.1 hd
  have hl : c.toNat < d.toNat ↔ c.toNat - 48 < d.toNat - 48 := by omega
  have he : c.toNat = d.toNat ↔ c.toNat - 48 = d.toNat - 48 := by omega
  rw [compare_char]
  exact compareOfLessAndEq_congr hl he

theorem digitsValue_append_singleton (s : List Char) (c : Char) :
    digitsValue (s ++ [c]) = 10 * digitsValue s + digitValue c := by
  rw [digitsValue, List.foldl_append]
  rfl

theorem digitsValue_eq_ofDigits (s : List Char) :
    digitsValue s = Nat.ofDigits 10 (s.map digitValue).reverse := by
  induction s using List.reverseRecOn with
  | nil => rfl
  | append_singleton s c ih =>
    rw [digitsValue_append_singleton, ih, List.map_append, List.reverse_append, List.map_singleton,
      List.reverse_singleton, List.singleton_append, Nat.ofDigits_cons]
    omega

theorem digitsValue_cons (c : Char) (s : List Char) :
    digitsValue (c :: s) = digitValue c * 10 ^ s.length + digitsValue s := by
  rw [digitsValue_eq_ofDigits, List.map_cons, List.reverse_cons, Nat.ofDigits_append,
    Nat.ofDigits_singleton, ← digitsValue_eq_ofDigits, List.length_reverse, List.length_map]
  ring

theorem digitsValue_lt {s : List Char} (h : Digits s) : digitsValue s < 10 ^ s.length := by
  have hlt : ∀ n ∈ (s.map digitValue).reverse, n < 10 := by
    intro n hn
    obtain ⟨c, hc, rfl⟩ := List.mem_map.1 (List.mem_reverse.1 hn)
    exact digitValue_lt (h c hc)
  simpa [digitsValue_eq_ofDigits] using Nat.ofDigits_lt_base_pow_length (by decide) hlt

theorem pow_le_digitsValue {c : Char} (hc : c.isDigit = true) (h : c ≠ '0') (s : List Char) :
    10 ^ s.length ≤ digitsValue (c :: s) := by
  have hv : 1 ≤ digitValue c := Nat.one_le_iff_ne_zero.2 (mt (digitValue_eq_zero_iff hc).1 h)
  rw [digitsValue_cons]
  calc 10 ^ s.length ≤ digitValue c * 10 ^ s.length := Nat.le_mul_of_pos_left _ hv
    _ ≤ _ := Nat.le_add_right _ _

theorem compare_mul_add {b x y u v : ℕ} (hu : u < b) (hv : v < b) :
    compare (x * b + u) (y * b + v) = (compare x y).then (compare u v) := by
  rcases Nat.lt_trichotomy x y with h | rfl | h
  · have hb : (x + 1) * b ≤ y * b := Nat.mul_le_mul_right b h
    rw [Nat.compare_eq_lt.2 h, Ordering.lt_then, Nat.compare_eq_lt]
    rw [Nat.succ_mul] at hb
    omega
  · rw [Nat.compare_eq_eq.2 rfl, Ordering.eq_then]
    exact compareOfLessAndEq_congr Nat.add_lt_add_iff_left Nat.add_left_cancel_iff
  · have hb : (y + 1) * b ≤ x * b := Nat.mul_le_mul_right b h
    rw [Nat.compare_eq_gt.2 h, Ordering.gt_then, Nat.compare_eq_gt]
    rw [Nat.succ_mul] at hb
    omega

theorem compare_digits : ∀ {s t : List Char}, s.length = t.length → Digits s → Digits t →
    compare s t = compare (digitsValue s) (digitsValue t)
  | [], [], _, _, _ => rfl
  | c :: s, d :: t, hl, hs, ht => by
    obtain ⟨hc, hs⟩ := digits_cons.1 hs
    obtain ⟨hd, ht⟩ := digits_cons.1 ht
    have hl : s.length = t.length := Nat.succ.inj hl
    have hst := compare_mul_add (x := digitValue c) (y := digitValue d) (digitsValue_lt hs)
      (hl ▸ digitsValue_lt ht)
    rw [List.compare_cons_cons, compare_digit hc hd, compare_digits hl hs ht, ← hst,
      digitsValue_cons, digitsValue_cons, hl]

theorem digitsValue_dropWhile_zero :
    ∀ s : List Char, digitsValue (s.dropWhile (· = '0')) = digitsValue s
  | [] => rfl
  | c :: s => by
    by_cases h : c = '0'
    · subst h
      have hz : digitValue '0' = 0 := rfl
      simp [digitsValue_dropWhile_zero s, digitsValue_cons, hz]
    · simp [h]

end ColumnFilter.Text
