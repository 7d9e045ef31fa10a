import ColumnFilter.Proofs.Text.Casing
import ColumnFilter.Proofs.Text.Lowercase
import Mathlib.Tactic.SplitIfs

/-! # Lower case of letters of either case

The capital and the small form of a letter of ASCII are both cased, are not
ignored where the end of a word is looked for, and have one lower case form. So
a capital sigma stands at the end of a word or not whatever the case of those
letters around it is, and a text has one lower case in letters of either case.
-/

namespace ColumnFilter.Text

variable {c d : Char} {s t : List Char}

/-- The same character, or the same letter of ASCII in the other case. -/
def SameLetter (c d : Char) : Prop :=
  c = d ∨ (IsSmall c ∧ d = c.toUpper) ∨ (IsSmall d ∧ c = d.toUpper)

instance (c d : Char) : Decidable (SameLetter c d) := inferInstanceAs (Decidable (_ ∨ _))

theorem toLower_eq_self (h : ¬ (65 ≤ c.toNat ∧ c.toNat ≤ 90)) : c.toLower = c := by
  rw [← Char.toNat_inj, toNat_toLower, if_neg h]

theorem toLower_of_not_isSmall (h : ¬ IsSmall c.toLower) : c.toLower = c := by
  refine toLower_eq_self fun hc => h ?_
  rw [IsSmall, toNat_toLower, if_pos hc]
  omega

theorem sameLetter_iff : SameLetter c d ↔ c.toLower = d.toLower := by
  constructor
  · rintro (rfl | ⟨h, rfl⟩ | ⟨h, rfl⟩)
    · rfl
    · rw [(toLower_eq_iff h).2 (.inl rfl), (toLower_eq_iff h).2 (.inr rfl)]
    · rw [(toLower_eq_iff h).2 (.inl rfl), (toLower_eq_iff h).2 (.inr rfl)]
  · intro h
    by_cases hs : IsSmall d.toLower
    · rcases (toLower_eq_iff hs).1 h with hc | hc <;> rcases (toLower_eq_iff hs).1 rfl with hd | hd
      · exact .inl (hc.trans hd.symm)
      · exact .inr (.inl ⟨hc ▸ hs, hc ▸ hd⟩)
      · exact .inr (.inr ⟨hd ▸ hs, hd ▸ hc⟩)
      · exact .inl (hc.trans hd.symm)
    · rw [← h] at hs
      have hc := toLower_of_not_isSmall hs
      rw [h] at hs
      exact .inl (hc.symm.trans (h.trans (toLower_of_not_isSmall hs)))

theorem forall₂_sameLetter_iff :
    List.Forall₂ SameLetter s t ↔ s.map Char.toLower = t.map Char.toLower := by
  have h : SameLetter = fun c d => c.toLower = d.toLower :=
    funext₂ fun _ _ => propext sameLetter_iff
  rw [← List.forall₂_eq_eq_eq, List.forall₂_map_left_iff, List.forall₂_map_right_iff, h]

def capitalRun : LowerRun := ⟨0x41, 0x5A, 1, 0x61⟩

theorem ascii_lt_of_mem_tail : ∀ r ∈ lowerRuns.tail, 0x80 ≤ r.first := by decide +kernel

theorem lowerForm_of_ascii (h : c.toNat < 0x80) : lowerForm c = [c.toLower] := by
  have hruns : lowerRuns = capitalRun :: lowerRuns.tail := rfl
  have hnone (r : LowerRun) (hr : r ∈ lowerRuns.tail) : r.image? c.toNat = none := by
    have hr := ascii_lt_of_mem_tail r hr
    exact LowerRun.image?_eq_none_iff.2 (by omega)
  have hdotted : c ≠ '\u0130' := by
    rintro rfl
    exact absurd h (by decide)
  rw [lowerForm, if_neg hdotted, lowerChar, hruns, List.findSome?_cons,
    List.findSome?_eq_none_iff.2 hnone]
  by_cases hc : 65 ≤ c.toNat ∧ c.toNat ≤ 90
  · have hi : capitalRun.image? c.toNat = some (c.toNat + 32) := by
      rw [LowerRun.image?_eq_some_iff]
      simp only [capitalRun, Nat.mod_one, and_true]
      omega
    have hl : c.toLower.toNat = c.toNat + 32 := by rw [toNat_toLower, if_pos hc]
    rw [hi, ← hl]
    simp only [Char.ofNat_toNat]
  · have hi : capitalRun.image? c.toNat = none := by
      rw [LowerRun.image?_eq_none_iff]
      simp only [capitalRun]
      omega
    rw [hi, toLower_eq_self hc]

-- What the tables say of the letters of ASCII is looked up in the kernel.
theorem forall_ascii : ∀ n < 0x80, isCased (Char.ofNat n).toLower = isCased (Char.ofNat n) ∧
    isCaseIgnorable (Char.ofNat n).toLower = isCaseIgnorable (Char.ofNat n) := by decide +kernel

theorem of_ascii (h : c.toNat < 0x80) : isCased c.toLower = isCased c ∧
    isCaseIgnorable c.toLower = isCaseIgnorable c := by
  have hc := forall_ascii c.toNat h
  rwa [Char.ofNat_toNat] at hc

theorem toLower_of_not_ascii (h : ¬ c.toNat < 0x80) : c.toLower = c :=
  toLower_eq_self (by omega)

theorem isCased_toLower (c : Char) : isCased c.toLower = isCased c := by
  by_cases h : c.toNat < 0x80
  · exact (of_ascii h).1
  · rw [toLower_of_not_ascii h]

theorem isCaseIgnorable_toLower (c : Char) : isCaseIgnorable c.toLower = isCaseIgnorable c := by
  by_cases h : c.toNat < 0x80
  · exact (of_ascii h).2
  · rw [toLower_of_not_ascii h]

theorem lowerForm_toLower (c : Char) : lowerForm c.toLower = lowerForm c := by
  by_cases h : c.toNat < 0x80
  · have hl : c.toLower.toNat < 0x80 := by
      rw [toNat_toLower]
      split <;> omega
    have hll : c.toLower.toLower = c.toLower := by
      rw [← Char.toNat_inj, toNat_toLower, toNat_toLower]
      split_ifs <;> omega
    rw [lowerForm_of_ascii hl, lowerForm_of_ascii h, hll]
  · rw [toLower_of_not_ascii h]

theorem toLower_eq_sigma_iff : c.toLower = 'Σ' ↔ c = 'Σ' := by
  have hs : 'Σ'.toNat = 931 := by decide
  rw [← Char.toNat_inj, ← Char.toNat_inj, toNat_toLower, hs]
  split <;> omega

theorem startsCased_map_toLower (s : List Char) :
    startsCased (s.map Char.toLower) = startsCased s := by
  have hc : isCaseIgnorable ∘ Char.toLower = isCaseIgnorable := funext isCaseIgnorable_toLower
  rw [startsCased, startsCased, List.dropWhile_map, hc]
  cases s.dropWhile isCaseIgnorable with
  | nil => rfl
  | cons c s => exact isCased_toLower c

/-- What is before and behind a character is seen alike in letters of either case. -/
theorem lowercaseAfter_map_toLower (before s : List Char) :
    lowercaseAfter (before.map Char.toLower) (s.map Char.toLower) = lowercaseAfter before s := by
  induction s generalizing before with
  | nil => rfl
  | cons c s ih =>
    rw [List.map_cons, lowercaseAfter, lowercaseAfter, ← List.map_cons, ih,
      startsCased_map_toLower, startsCased_map_toLower, lowerForm_toLower]
    simp only [toLower_eq_sigma_iff]

theorem lowercase_eq_of_sameLetter (h : List.Forall₂ SameLetter s t) :
    lowercase s = lowercase t := by
  rw [lowercase, ← lowercaseAfter_map_toLower [] s, forall₂_sameLetter_iff.1 h,
    lowercaseAfter_map_toLower, lowercase]

end ColumnFilter.Text
