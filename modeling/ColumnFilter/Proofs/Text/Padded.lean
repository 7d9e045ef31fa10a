import ColumnFilter.Proofs.Text.Digits
import ColumnFilter.Proofs.Text.Runs
import Mathlib.Algebra.BigOperators.Group.Finset.Basic
import Mathlib.Algebra.BigOperators.Intervals

/-! # Numbers of a fixed width

A number in so many digits, with zeros in front where it has fewer, and the
digits behind a point, of which those that are left out are zeros.
-/

namespace ColumnFilter.Text

/-- The last digits of a number to the base ten, as many as are asked for. -/
def padded : ℕ → ℕ → List Char
  | 0, _ => []
  | w + 1, n => padded w (n / 10) ++ [Nat.digitChar (n % 10)]

variable {w n : ℕ}

@[simp] theorem length_padded : (padded w n).length = w := by
  induction w generalizing n with
  | zero => rfl
  | succ w ih => simp [padded, ih]

theorem digits_padded : Digits (padded w n) := by
  induction w generalizing n with
  | zero => exact digits_nil
  | succ w ih =>
    refine List.forall_mem_append.2 ⟨ih, List.forall_mem_singleton.2 ?_⟩
    rw [Nat.isDigit_digitChar, decide_eq_true_iff]
    exact Nat.mod_lt n (by decide)

theorem digitValue_digitChar (h : n < 10) : digitValue (Nat.digitChar n) = n :=
  Nat.toNat_digitChar_sub_48_of_lt_ten h

theorem digitsValue_padded (h : n < 10 ^ w) : digitsValue (padded w n) = n := by
  induction w generalizing n with
  | zero => exact (Nat.lt_one_iff.1 h).symm
  | succ w ih =>
    have hdiv : n / 10 < 10 ^ w := Nat.div_lt_of_lt_mul (Nat.pow_succ' ▸ h)
    rw [padded, digitsValue_append_singleton, ih hdiv,
      digitValue_digitChar (Nat.mod_lt n (by decide)), Nat.div_add_mod]

theorem exists_cons_padded (hw : w ≠ 0) (n : ℕ) :
    ∃ c s, padded w n = c :: s ∧ c.isDigit = true := by
  have hne : padded w n ≠ [] := by
    rw [← List.length_pos_iff, length_padded]
    omega
  have hd : Digits (padded w n) := digits_padded
  obtain ⟨c, s, hs⟩ := List.exists_cons_of_ne_nil hne
  exact ⟨c, s, hs, hd c (by simp [hs])⟩

def digitChars (digits : List (Fin 10)) : List Char := digits.map fun d : Fin 10 => Nat.digitChar d

@[simp] theorem length_digitChars (digits : List (Fin 10)) :
    (digitChars digits).length = digits.length := List.length_map _

theorem digits_digitChars (digits : List (Fin 10)) : Digits (digitChars digits) := by
  intro c hc
  obtain ⟨d, -, rfl⟩ := List.mem_map.1 hc
  rw [Nat.isDigit_digitChar, decide_eq_true_iff]
  exact d.isLt

theorem exists_digitChars_eq_padded (w n : ℕ) : ∃ digits, digitChars digits = padded w n := by
  induction w generalizing n with
  | zero => exact ⟨[], rfl⟩
  | succ w ih =>
    obtain ⟨digits, h⟩ := ih (n / 10)
    refine ⟨digits ++ [⟨n % 10, Nat.mod_lt n (by decide)⟩], ?_⟩
    rw [padded, ← h, digitChars, digitChars, List.map_append, List.map_singleton]

/-- The first digits of a fraction as a whole number, where a digit left out is a zero. -/
theorem digitsValue_take_mul (k : ℕ) (digits : List (Fin 10)) :
    digitsValue ((digitChars digits).take k) * 10 ^ (k - digits.length) =
      ∑ i ∈ Finset.range k, (digits.getD i 0 : ℕ) * 10 ^ (k - 1 - i) := by
  induction k generalizing digits with
  | zero => simp [digitsValue]
  | succ k ih =>
    cases digits with
    | nil => simp [digitChars, digitsValue]
    | cons d ds =>
      have hsub : ∀ i ∈ Finset.range k, (ds.getD i 0 : ℕ) * 10 ^ (k - (i + 1)) =
          (ds.getD i 0 : ℕ) * 10 ^ (k - 1 - i) := fun i _ => by
        rw [Nat.sub_sub, Nat.add_comm 1 i]
      have hlen : ((digitChars ds).take k).length + (k - ds.length) = k := by
        rw [List.length_take, length_digitChars]
        omega
      rw [Finset.sum_range_succ', digitChars, List.map_cons, List.take_succ_cons, digitsValue_cons,
        digitValue_digitChar d.isLt, List.length_cons, Nat.add_sub_add_right, Nat.add_mul,
        Nat.mul_assoc, ← Nat.pow_add]
      simp only [List.getD_cons_succ, List.getD_cons_zero, Nat.add_sub_cancel, Nat.sub_zero]
      rw [Finset.sum_congr rfl hsub, ← ih ds, ← digitChars, hlen, Nat.add_comm]

end ColumnFilter.Text
