import ColumnFilter.Token
import ColumnFilter.Proofs.Text.Runs

/-! # Kinds of characters

The first character of a token tells what the token is: blanks, the characters
of words, those of operators, the quote and the punctuation are all apart.
-/

namespace ColumnFilter

namespace Text

theorem Ranges.exists_of_has {n : Nat} :
    ∀ {rs : Ranges}, rs.has n = true → ∃ r ∈ rs, r.1 ≤ n ∧ n ≤ r.2
  | [], h => by simp [Ranges.has] at h
  | (first, last) :: rs, h => by
    simp only [Ranges.has, Bool.and_eq_true, Bool.or_eq_true, decide_eq_true_eq] at h
    obtain ⟨hf, hl | hr⟩ := h
    · exact ⟨_, List.mem_cons_self, hf, hl⟩
    · obtain ⟨r, hr, hn⟩ := Ranges.exists_of_has hr
      exact ⟨r, List.mem_cons_of_mem _ hr, hn⟩

theorem not_isAlphanumeric_of_isBlank {c : Char} (h : isBlank c = true) :
    isAlphanumeric c = false := by
  have hall : ∀ r ∈ blanks, ∀ i < r.2 + 1 - r.1, alphanumerics.has (r.1 + i) = false := by
    decide +kernel
  obtain ⟨r, hr, hf, hl⟩ := Ranges.exists_of_has h
  have := hall r hr (c.toNat - r.1) (by omega)
  rwa [Nat.add_sub_cancel' hf] at this

end Text

namespace Token

open Text (isBlank)

theorem isOperatorChar_iff {c : Char} :
    isOperatorChar c = true ↔ c = '=' ∨ c = '!' ∨ c = '<' ∨ c = '>' := by
  simp [isOperatorChar, or_assoc]

theorem isWordChar_iff {c : Char} :
    isWordChar c = true ↔
      Text.isAlphanumeric c = true ∨ c = '_' ∨ c = '-' ∨ c = '.' ∨ c = '+' ∨ c = ':' := by
  simp [isWordChar, or_assoc]

theorem ne_of_isOperatorChar {c : Char} (h : isOperatorChar c = true) :
    c ≠ '(' ∧ c ≠ ')' ∧ c ≠ ',' ∧ c ≠ Text.Quoted.mark := by
  refine ⟨?_, ?_, ?_, ?_⟩ <;> rintro rfl <;> exact absurd h (by decide)

theorem ne_of_isWordChar {c : Char} (h : isWordChar c = true) :
    c ≠ '(' ∧ c ≠ ')' ∧ c ≠ ',' ∧ c ≠ Text.Quoted.mark := by
  refine ⟨?_, ?_, ?_, ?_⟩ <;> rintro rfl <;> exact absurd h (by decide)

theorem not_isBlank_of_isOperatorChar {c : Char} (h : isOperatorChar c = true) :
    isBlank c = false := by
  rcases isOperatorChar_iff.1 h with rfl | rfl | rfl | rfl <;> decide

theorem not_isWordChar_of_isOperatorChar {c : Char} (h : isOperatorChar c = true) :
    isWordChar c = false := by
  rcases isOperatorChar_iff.1 h with rfl | rfl | rfl | rfl <;> decide

theorem not_isBlank_of_isWordChar {c : Char} (h : isWordChar c = true) : isBlank c = false := by
  rcases isWordChar_iff.1 h with h | rfl | rfl | rfl | rfl | rfl
  · by_contra hb
    simp [Text.not_isAlphanumeric_of_isBlank (eq_true_of_ne_false hb)] at h
  all_goals decide

end Token

end ColumnFilter
