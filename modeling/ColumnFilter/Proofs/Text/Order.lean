import Mathlib.Data.Nat.Notation
import Mathlib.Tactic.SplitIfs

/-! # The order of texts

Texts are ordered by the code points of their characters, the first difference
deciding and a part of a text coming before the whole. Their encodings in UTF-8
stand in the same order byte by byte.
-/

namespace ColumnFilter.Text

open Std

def codePoints (s : String) : List ℕ := s.toList.map Char.toNat

/-- The bytes of the text in UTF-8. -/
def encoding (s : String) : List UInt8 := s.toUTF8.data.toList

/-- What compares by its order and its equality compares like anything with the same ones. -/
theorem compareOfLessAndEq_congr {α β : Type} [LT α] [DecidableLT α] [DecidableEq α] [LT β]
    [DecidableLT β] [DecidableEq β] {a b : α} {x y : β} (hl : a < b ↔ x < y) (he : a = b ↔ x = y) :
    compareOfLessAndEq a b = compareOfLessAndEq x y := by
  simp only [compareOfLessAndEq, hl, he]

section Lists

variable {α β : Type} [Ord α]

theorem compare_append_left [ReflOrd α] :
    ∀ l s t : List α, compare (l ++ s) (l ++ t) = compare s t
  | [], _, _ => rfl
  | a :: l, s, t => by
    rw [List.cons_append, List.cons_append, List.compare_cons_cons, ReflOrd.compare_self,
      Ordering.eq_then, compare_append_left l]

theorem compare_map [Ord β] {f : α → β} (h : ∀ a b, compare (f a) (f b) = compare a b) :
    ∀ s t : List α, compare (s.map f) (t.map f) = compare s t
  | [], [] | [], _ :: _ | _ :: _, [] => rfl
  | a :: s, b :: t => by
    rw [List.map_cons, List.map_cons, List.compare_cons_cons, List.compare_cons_cons, h,
      compare_map h s t]

end Lists

theorem lt_iff_toNat_lt {c d : Char} : c < d ↔ c.toNat < d.toNat := Iff.rfl

theorem compare_char (c d : Char) : compare c d = compare c.toNat d.toNat :=
  compareOfLessAndEq_congr lt_iff_toNat_lt Char.toNat_inj.symm

theorem compareOfLessAndEq_eq_compare :
    ∀ s t : List Char, compareOfLessAndEq s t = compare s t
  | [], [] | [], _ :: _ | _ :: _, [] => rfl
  | c :: s, d :: t => by
    rw [List.compare_cons_cons, ← compareOfLessAndEq_eq_compare s t, compare_char]
    rcases Nat.lt_trichotomy c.toNat d.toNat with h | h | h
    · rw [Nat.compare_eq_lt.2 h]
      simp [compareOfLessAndEq, List.cons_lt_cons_iff, lt_iff_toNat_lt, h]
    · rw [Nat.compare_eq_eq.2 h, Char.toNat_inj.1 h]
      simp [compareOfLessAndEq]
    · rw [Nat.compare_eq_gt.2 h]
      have hl : ¬ c.toNat < d.toNat := by omega
      have hn : c ≠ d := fun hn => by rw [hn] at h; omega
      simp [compareOfLessAndEq, List.cons_lt_cons_iff, lt_iff_toNat_lt, hl, hn]

theorem compare_codePoints (s t : String) :
    compare (codePoints s) (codePoints t) = compare s t := by
  rw [codePoints, codePoints, compare_map fun c d => (compare_char c d).symm,
    ← compareOfLessAndEq_eq_compare]
  exact compareOfLessAndEq_congr String.lt_iff.symm String.toList_inj

theorem compare_bytes {x y : ℕ} (hx : x < 256) (hy : y < 256) (s t : List UInt8) :
    compare (UInt8.ofNat x :: s) (UInt8.ofNat y :: t) = (compare x y).then (compare s t) := by
  have hb : compare (UInt8.ofNat x) (UInt8.ofNat y) = compare x y :=
    compareOfLessAndEq_congr
      (by rw [UInt8.lt_iff_toNat_lt, UInt8.toNat_ofNat_of_lt' hx, UInt8.toNat_ofNat_of_lt' hy])
      (by rw [← UInt8.toNat_inj, UInt8.toNat_ofNat_of_lt' hx, UInt8.toNat_ofNat_of_lt' hy])
  rw [List.compare_cons_cons, hb]

theorem compare_bytes_lt {x y : ℕ} (hx : x < 256) (hy : y < 256) {s t : List UInt8} :
    compare (UInt8.ofNat x :: s) (UInt8.ofNat y :: t) = .lt ↔
      x < y ∨ x = y ∧ compare s t = .lt := by
  rw [compare_bytes hx hy, Ordering.then_eq_lt, Nat.compare_eq_lt, Nat.compare_eq_eq]

theorem toNat_lt (c : Char) : c.toNat < 0x110000 := by
  rcases c.valid with h | h
  · exact Nat.lt_trans h (by decide)
  · exact h.2

/-- Four digits to the base 64 are compared from the first to the last. -/
theorem digits_lt_of_lt {m n : ℕ} (h : m < n) (hn : n < 2097152) :
    m / 262144 % 8 < n / 262144 % 8 ∨ m / 262144 % 8 = n / 262144 % 8 ∧
      (m / 4096 % 64 < n / 4096 % 64 ∨ m / 4096 % 64 = n / 4096 % 64 ∧
        (m / 64 % 64 < n / 64 % 64 ∨ m / 64 % 64 = n / 64 % 64 ∧ m % 64 < n % 64)) := by
  have digits {k : ℕ} (hk : k < 2097152) :
      k / 262144 % 8 * 262144 + k / 4096 % 64 * 4096 + k / 64 % 64 * 64 + k % 64 = k := by omega
  have bounds (k : ℕ) : k / 4096 % 64 < 64 ∧ k / 64 % 64 < 64 ∧ k % 64 < 64 := by omega
  have hmb := bounds m
  have hnb := bounds n
  rw [← digits (Nat.lt_trans h hn), ← digits hn] at h
  generalize m / 262144 % 8 = m₁, m / 4096 % 64 = m₂, m / 64 % 64 = m₃, m % 64 = m₄ at *
  generalize n / 262144 % 8 = n₁, n / 4096 % 64 = n₂, n / 64 % 64 = n₃, n % 64 = n₄ at *
  omega

theorem compare_utf8EncodeChar_of_lt {c d : Char} (h : c.toNat < d.toNat) (s t : List UInt8) :
    compare (String.utf8EncodeChar c ++ s) (String.utf8EncodeChar d ++ t) = .lt := by
  have hd := toNat_lt d
  -- Where the encodings are of different lengths, or shorter than four bytes, the bounds suffice.
  have hl := digits_lt_of_lt h (Nat.lt_trans hd (by decide))
  simp only [String.utf8EncodeChar, Char.toNat_val]
  split_ifs
  all_goals simp (disch := omega) only [List.cons_append, compare_bytes_lt]
  rotate_right
  · simp only [Nat.add_lt_add_iff_right, Nat.add_right_cancel_iff]
    exact hl.imp_right fun ⟨h₁, h⟩ => ⟨h₁, h.imp_right fun ⟨h₂, h⟩ => ⟨h₂, h.imp_right fun
      ⟨h₃, h⟩ => ⟨h₃, .inl h⟩⟩⟩
  all_goals omega

theorem compare_utf8EncodeChar (c d : Char) (s t : List UInt8) :
    compare (String.utf8EncodeChar c ++ s) (String.utf8EncodeChar d ++ t) =
      (compare c.toNat d.toNat).then (compare s t) := by
  rcases Nat.lt_trichotomy c.toNat d.toNat with h | h | h
  · rw [compare_utf8EncodeChar_of_lt h, Nat.compare_eq_lt.2 h, Ordering.lt_then]
  · rw [Nat.compare_eq_eq.2 h, Char.toNat_inj.1 h, compare_append_left, Ordering.eq_then]
  · rw [OrientedOrd.eq_swap, compare_utf8EncodeChar_of_lt h, Nat.compare_eq_gt.2 h]
    rfl

theorem compare_flatMap_utf8EncodeChar : ∀ s t : List Char,
    compare (s.flatMap String.utf8EncodeChar) (t.flatMap String.utf8EncodeChar) =
      compare (s.map Char.toNat) (t.map Char.toNat)
  | [], [] => rfl
  | [], d :: t => by
    obtain ⟨b, u, h⟩ := List.exists_cons_of_ne_nil (String.utf8EncodeChar_ne_nil (c := d))
    rw [List.flatMap_cons, h]
    rfl
  | c :: s, [] => by
    obtain ⟨b, u, h⟩ := List.exists_cons_of_ne_nil (String.utf8EncodeChar_ne_nil (c := c))
    rw [List.flatMap_cons, h]
    rfl
  | c :: s, d :: t => by
    rw [List.flatMap_cons, List.flatMap_cons, compare_utf8EncodeChar, List.map_cons,
      List.map_cons, List.compare_cons_cons, compare_flatMap_utf8EncodeChar s t]

theorem encoding_eq (s : String) : encoding s = s.toList.flatMap String.utf8EncodeChar := by
  rw [encoding, String.toUTF8_eq_toByteArray, ← String.utf8Encode_toList, List.utf8Encode,
    List.toList_data_toByteArray]

/-- Texts stand in the order of their code points just as in the order of their bytes. -/
theorem compare_encoding (s t : String) :
    compare (encoding s) (encoding t) = compare (codePoints s) (codePoints t) := by
  rw [encoding_eq, encoding_eq, compare_flatMap_utf8EncodeChar, codePoints, codePoints]

end ColumnFilter.Text
