import Mathlib.Data.List.Forall2

/-! # Letters of either case

Folding a text to lower case gives a word in small letters just when each of
its letters is the one of the word or the capital of it. Only the letters of
ASCII are folded.
-/

namespace ColumnFilter.Text

def IsSmall (c : Char) : Prop := 97 ≤ c.toNat ∧ c.toNat ≤ 122

instance (c : Char) : Decidable (IsSmall c) := inferInstanceAs (Decidable (_ ∧ _))

theorem toNat_toLower (c : Char) :
    c.toLower.toNat = if 65 ≤ c.toNat ∧ c.toNat ≤ 90 then c.toNat + 32 else c.toNat := by
  unfold Char.toLower
  split
  · next h =>
    have hc : 65 ≤ c.toNat ∧ c.toNat ≤ 90 := h
    have hs : ('a'.val - 'A'.val).toNat = 32 := by decide
    rw [if_pos hc]
    change (c.val + ('a'.val - 'A'.val)).toNat = _
    rw [UInt32.toNat_add, hs, Char.toNat_val]
    omega
  · next h =>
    have hc : ¬ (65 ≤ c.toNat ∧ c.toNat ≤ 90) := h
    rw [if_neg hc]

theorem toNat_toUpper {c : Char} (h : IsSmall c) : c.toUpper.toNat = c.toNat - 32 := by
  have hs : ('A'.val - 'a'.val).toNat = 4294967264 := by decide
  have hc : 'a'.val ≤ c.val ∧ c.val ≤ 'z'.val := h
  unfold Char.toUpper
  rw [dif_pos hc]
  change (c.val + ('A'.val - 'a'.val)).toNat = _
  rw [UInt32.toNat_add, hs, Char.toNat_val]
  unfold IsSmall at h
  omega

theorem toLower_eq_iff {c d : Char} (h : IsSmall d) : c.toLower = d ↔ c = d ∨ c = d.toUpper := by
  rw [← Char.toNat_inj, ← Char.toNat_inj, ← Char.toNat_inj, toNat_toLower, toNat_toUpper h]
  unfold IsSmall at h
  split <;> omega

/-- A text folds to a word in small letters when it is the word in letters of either case. -/
theorem map_toLower_eq_iff : ∀ {s t : List Char}, (∀ d ∈ t, IsSmall d) →
    (s.map Char.toLower = t ↔ List.Forall₂ (fun c d => c = d ∨ c = d.toUpper) s t)
  | [], [], _ => by simp
  | [], _ :: _, _ => by simp
  | _ :: _, [], _ => by simp
  | c :: s, d :: t, h => by
    obtain ⟨hd, ht⟩ := List.forall_mem_cons.1 h
    rw [List.map_cons, List.cons.injEq, List.forall₂_cons, toLower_eq_iff hd,
      map_toLower_eq_iff ht]

end ColumnFilter.Text
