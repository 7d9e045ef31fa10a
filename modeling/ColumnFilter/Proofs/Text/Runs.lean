import ColumnFilter.Text.Blank
import Mathlib.Data.List.TakeWhile

/-! # Runs of characters

A run is as long as its characters allow: what follows it begins with none of
them. Blanks in a row are the run that may stand between other parts of a text.
-/

namespace ColumnFilter.Text

/-- The next character, if there is one, is not of the given kind. -/
def Ends (p : Char → Bool) (s : List Char) : Prop := ∀ c ∈ s.head?, p c = false

@[simp] theorem ends_nil (p : Char → Bool) : Ends p [] := by simp [Ends]

@[simp] theorem ends_cons {p : Char → Bool} {c : Char} {s : List Char} :
    Ends p (c :: s) ↔ p c = false := by simp [Ends]

theorem ends_of_prefix {p : Char → Bool} {s t : List Char} (h : s <+: t) (hs : s ≠ [])
    (hp : ∀ c ∈ s, p c = false) : Ends p t := by
  obtain ⟨u, rfl⟩ := h
  obtain ⟨c, s, rfl⟩ := List.exists_cons_of_ne_nil hs
  exact ends_cons.2 (hp c List.mem_cons_self)

theorem ends_dropWhile (p : Char → Bool) : ∀ s : List Char, Ends p (s.dropWhile p)
  | [] => ends_nil p
  | c :: s => by
    cases h : p c with
    | true => simpa [h] using ends_dropWhile p s
    | false => simp [h]

theorem takeWhile_append_of_ends {p : Char → Bool} {s t : List Char} (hs : ∀ c ∈ s, p c = true)
    (ht : Ends p t) : (s ++ t).takeWhile p = s := by
  rw [List.takeWhile_append_of_pos hs]
  cases t with
  | nil => simp
  | cons c t => simp [ends_cons.1 ht]

theorem dropWhile_append_of_ends {p : Char → Bool} {s t : List Char} (hs : ∀ c ∈ s, p c = true)
    (ht : Ends p t) : (s ++ t).dropWhile p = t := by
  rw [List.dropWhile_append_of_pos hs]
  cases t with
  | nil => simp
  | cons c t => simp [ends_cons.1 ht]

def Blanks (s : List Char) : Prop := ∀ c ∈ s, isBlank c = true

@[simp] theorem blanks_nil : Blanks [] := by simp [Blanks]

@[simp] theorem blanks_cons {c : Char} {s : List Char} :
    Blanks (c :: s) ↔ isBlank c = true ∧ Blanks s := by simp [Blanks]

theorem all_isBlank_iff {s : List Char} : s.all isBlank = true ↔ Blanks s := List.all_eq_true

instance (s : List Char) : Decidable (Blanks s) := decidable_of_iff _ all_isBlank_iff

theorem Blanks.reverse {s : List Char} (h : Blanks s) : Blanks s.reverse :=
  fun c hc => h c (List.mem_reverse.1 hc)

theorem trimStart_append {u : List Char} (hu : Blanks u) (s : List Char) :
    trimStart (u ++ s) = trimStart s := List.dropWhile_append_of_pos hu

theorem exists_eq_append_trimStart (s : List Char) : ∃ u, Blanks u ∧ s = u ++ trimStart s :=
  ⟨s.takeWhile isBlank, fun _ => List.mem_takeWhile_imp, (List.takeWhile_append_dropWhile).symm⟩

theorem trim_append {u v : List Char} (hu : Blanks u) (hv : Blanks v) (s : List Char) :
    trim (u ++ s ++ v) = trim s := by
  rw [trim, trim, List.append_assoc, trimStart_append hu]
  congr 1
  by_cases hs : trimStart s = []
  · have hsv : trimStart (s ++ v) = [] := by
      rw [trimStart, List.dropWhile_eq_nil_iff] at hs ⊢
      exact List.forall_mem_append.2 ⟨hs, hv⟩
    rw [hs, hsv]
  · have hsv : trimStart (s ++ v) = trimStart s ++ v := by
      rw [trimStart] at hs
      simp [trimStart, List.dropWhile_append, hs]
    rw [hsv, List.reverse_append, trimStart_append hv.reverse]

theorem exists_eq_append_trim (s : List Char) :
    ∃ u v, Blanks u ∧ Blanks v ∧ s = u ++ trim s ++ v := by
  obtain ⟨u, hu, hs⟩ := exists_eq_append_trimStart s
  obtain ⟨v, hv, ht⟩ := exists_eq_append_trimStart (trimStart s).reverse
  refine ⟨u, v.reverse, hu, hv.reverse, ?_⟩
  have hr : trimStart s = trim s ++ v.reverse := by
    rw [trim, ← List.reverse_append, ← ht, List.reverse_reverse]
  rw [List.append_assoc, ← hr, ← hs]

theorem trim_of_ends {s : List Char} (hs : Ends isBlank s) (hr : Ends isBlank s.reverse) :
    trim s = s := by
  have h {t : List Char} (ht : Ends isBlank t) : trimStart t = t :=
    dropWhile_append_of_ends (s := []) (by simp) ht
  rw [trim, h hs, h hr, List.reverse_reverse]

end ColumnFilter.Text
