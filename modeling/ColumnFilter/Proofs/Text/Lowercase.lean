import ColumnFilter.RowKey
import Mathlib.Data.List.Basic

/-! # Lower case twice

No run of lower case forms leads into a run, so a character that lower case has
given has no other lower case form. Hence a text in lower case stays as it is,
whatever a capital sigma in it has been written as.
-/

namespace ColumnFilter

namespace Text

variable {c d : Char} {m n : Nat} {r r' : LowerRun} {before s : List Char}

namespace LowerRun

def lowerLast (r : LowerRun) : Nat := r.lower + (r.last - r.first)

/-- No image of the run is in the other one, be it by the bounds or, where both take every second
code point, by parity. -/
def avoids (r r' : LowerRun) : Bool :=
  r.lowerLast.succ.ble r'.first || r'.last.succ.ble r.lower ||
    (r'.step == 2 && (r.step == 2 || r.first == r.last) && (r.lower + r'.first) % 2 == 1)

def isScalar (r : LowerRun) : Bool :=
  r.lowerLast.succ.ble 0xD800 || (Nat.ble 0xE000 r.lower && r.lowerLast.succ.ble 0x110000)

theorem image?_eq_some_iff : r.image? n = some m ↔
    (r.first ≤ n ∧ n ≤ r.last ∧ (n - r.first) % r.step = 0) ∧ n - r.first + r.lower = m := by
  unfold image?
  split_ifs with h <;> simp [h]

theorem image?_eq_none_iff :
    r.image? n = none ↔ ¬ (r.first ≤ n ∧ n ≤ r.last ∧ (n - r.first) % r.step = 0) := by
  unfold image?
  split_ifs with h <;> simp [h]

theorem image?_of_avoids (h : r.avoids r') (hn : r.image? n = some m) : r'.image? m = none := by
  obtain ⟨⟨hf, hl, hs⟩, rfl⟩ := image?_eq_some_iff.1 hn
  rw [image?_eq_none_iff]
  rintro ⟨hf', hl', hs'⟩
  simp only [avoids, lowerLast, Bool.or_eq_true, Bool.and_eq_true, Nat.ble_eq, beq_iff_eq] at h
  rcases h with (h | h) | ⟨⟨h, hr⟩, hp⟩
  · omega
  · omega
  · rw [h] at hs'
    rcases hr with hr | hr
    · rw [hr] at hs
      omega
    · omega

theorem isValidChar_of_isScalar (h : r.isScalar) (hn : r.image? n = some m) : m.isValidChar := by
  obtain ⟨⟨hf, hl, -⟩, rfl⟩ := image?_eq_some_iff.1 hn
  simp only [isScalar, lowerLast, Bool.or_eq_true, Bool.and_eq_true, Nat.ble_eq] at h
  unfold Nat.isValidChar
  omega

end LowerRun

def dottedRun : LowerRun := ⟨0x130, 0x130, 1, 0⟩

-- The whole table is gone through in the kernel, each pair of runs once, so the checks are Boolean.
theorem all_lowerRuns : (lowerRuns.all fun r =>
    r.isScalar && r.avoids dottedRun && lowerRuns.all r.avoids) = true := by decide +kernel

theorem of_mem_lowerRuns (hr : r ∈ lowerRuns) :
    r.isScalar ∧ r.avoids dottedRun ∧ ∀ r' ∈ lowerRuns, r.avoids r' := by
  have h := List.all_eq_true.1 all_lowerRuns r hr
  rwa [Bool.and_eq_true, Bool.and_eq_true, List.all_eq_true, and_assoc] at h

/-- A character that has no other lower case form. -/
def IsLower (c : Char) : Prop := ∀ r ∈ dottedRun :: lowerRuns, r.image? c.toNat = none

theorem isLower_iff_all : IsLower c ↔
    ((dottedRun :: lowerRuns).all fun r => (r.image? c.toNat).isNone) = true := by
  simp only [List.all_eq_true, Option.isNone_iff_eq_none, IsLower]

theorem IsLower.ne_sigma (h : IsLower c) : c ≠ 'Σ' := by
  rintro rfl
  exact absurd (isLower_iff_all.1 h) (by decide +kernel)

theorem all_isLower_special : (['i', '\u0307', 'ς', 'σ'].all fun c =>
    (dottedRun :: lowerRuns).all fun r => (r.image? c.toNat).isNone) = true := by decide +kernel

theorem isLower_special (h : c ∈ ['i', '\u0307', 'ς', 'σ']) : IsLower c :=
  isLower_iff_all.2 (List.all_eq_true.1 all_isLower_special c h)

theorem IsLower.lowerForm_eq (h : IsLower c) : lowerForm c = [c] := by
  obtain ⟨hd, h⟩ := List.forall_mem_cons.1 h
  have hne : c ≠ '\u0130' := by
    rintro rfl
    cases hd
  rw [lowerForm, if_neg hne, lowerChar, List.findSome?_eq_none_iff.2 h]

theorem isLower_lowerChar (hc : c ≠ '\u0130') : IsLower (lowerChar c) := by
  unfold lowerChar
  cases hm : lowerRuns.findSome? (·.image? c.toNat) with
  | none =>
    refine List.forall_mem_cons.2 ⟨?_, List.findSome?_eq_none_iff.1 hm⟩
    rw [LowerRun.image?_eq_none_iff]
    rintro ⟨hf, hl, -⟩
    exact hc (Char.toNat_inj.1 (Nat.le_antisymm hl hf))
  | some m =>
    obtain ⟨r, hr, hm⟩ := List.exists_of_findSome?_eq_some hm
    obtain ⟨hs, hd, hr⟩ := of_mem_lowerRuns hr
    have hv := LowerRun.isValidChar_of_isScalar hs hm
    have hn : (Char.ofNat m).toNat = m := by
      rw [Char.ofNat, dif_pos hv]
      rfl
    refine List.forall_mem_cons.2 ⟨?_, fun r' hr' => ?_⟩
    · simp only [hn]
      exact LowerRun.image?_of_avoids hd hm
    · simp only [hn]
      exact LowerRun.image?_of_avoids (hr r' hr') hm

theorem isLower_of_mem_lowerForm (h : d ∈ lowerForm c) : IsLower d := by
  unfold lowerForm at h
  split_ifs at h with hc
  · exact isLower_special (List.mem_append_left ['ς', 'σ'] h)
  · exact List.mem_singleton.1 h ▸ isLower_lowerChar hc

theorem isLower_sigma (final : Bool) : IsLower (if final then 'ς' else 'σ') := by
  cases final <;> exact isLower_special (by simp)

theorem isLower_of_mem_lowercaseAfter (h : d ∈ lowercaseAfter before s) : IsLower d := by
  induction s generalizing before with
  | nil => cases h
  | cons c s ih =>
    rcases List.mem_append.1 h with h | h
    · by_cases hc : c = 'Σ'
      · rw [if_pos hc, List.mem_singleton] at h
        exact h ▸ isLower_sigma _
      · rw [if_neg hc] at h
        exact isLower_of_mem_lowerForm h
    · exact ih h

theorem lowercaseAfter_of_isLower (h : ∀ d ∈ s, IsLower d) : lowercaseAfter before s = s := by
  induction s generalizing before with
  | nil => rfl
  | cons c s ih =>
    obtain ⟨hc, hs⟩ := List.forall_mem_cons.1 h
    rw [lowercaseAfter, if_neg hc.ne_sigma, hc.lowerForm_eq, ih hs]
    rfl

theorem lowercase_lowercase (s : List Char) : lowercase (lowercase s) = lowercase s :=
  lowercaseAfter_of_isLower fun _ => isLower_of_mem_lowercaseAfter

/-- The texts in lower case are those without a character that has another lower case form. -/
theorem lowercase_eq_self_iff : lowercase s = s ↔ ∀ c ∈ s, IsLower c := by
  constructor
  · intro h c hc
    rw [← h] at hc
    exact isLower_of_mem_lowercaseAfter hc
  · exact lowercaseAfter_of_isLower

end Text

/-- The text of a key identifies the row that has the key. -/
theorem RowKey.ofIdentifier_text (id : String) : ofIdentifier (ofIdentifier id).text =
    ofIdentifier id := by
  simp only [ofIdentifier, String.toList_ofList, Text.lowercase_lowercase]

end ColumnFilter
