import ColumnFilter.Token.Lexer
import ColumnFilter.Proofs.Text.Quoted
import ColumnFilter.Proofs.Token.Classes

/-! # Single tokens

The first character of a token tells its kind, and the token is as long as that
kind allows. What is read off the front of a text is therefore the one token
that the text begins with and that could not have been longer.
-/

namespace ColumnFilter

namespace Token

open Text (isBlank Ends)

def WellFormed : Token → Prop
  | word text => text.toList ≠ [] ∧ ∀ c ∈ text.toList, isWordChar c = true
  | operator text => text.toList ≠ [] ∧ ∀ c ∈ text.toList, isOperatorChar c = true
  | quoted _ | opening | closing | comma => True

instance : ∀ t : Token, Decidable t.WellFormed
  | word text =>
    decidable_of_iff (text.toList ≠ [] ∧ text.toList.all isWordChar = true)
      (and_congr_right' List.all_eq_true)
  | operator text =>
    decidable_of_iff (text.toList ≠ [] ∧ text.toList.all isOperatorChar = true)
      (and_congr_right' List.all_eq_true)
  | quoted _ | opening | closing | comma => inferInstanceAs (Decidable True)

/-- Whether a character that stands behind a token is read with it. -/
def absorbs : Token → Char → Bool
  | word _, c => isWordChar c
  | operator _, c => isOperatorChar c
  | quoted _, c => c == Text.Quoted.mark
  | opening, _ | closing, _ | comma, _ => false

/-- Whether a token is of a kind with the one before it, and of a kind that runs on. -/
def merges : Token → Token → Bool
  | word _, word _ | operator _, operator _ | quoted _, quoted _ => true
  | _, _ => false

def starts : Token → Char → Bool
  | word _, c => isWordChar c
  | operator _, c => isOperatorChar c
  | quoted _, c => c == Text.Quoted.mark
  | opening, c => c == '('
  | closing, c => c == ')'
  | comma, c => c == ','

variable {t u : Token} {c : Char} {s rest : List Char} {offset : Nat}

theorem not_absorbs_of_isBlank (t : Token) (h : isBlank c = true) : t.absorbs c = false := by
  by_contra ha
  cases t with
  | word => simp [not_isBlank_of_isWordChar (eq_true_of_ne_false ha)] at h
  | operator => simp [not_isBlank_of_isOperatorChar (eq_true_of_ne_false ha)] at h
  | quoted =>
    obtain rfl : c = Text.Quoted.mark := by simpa [absorbs] using ha
    exact absurd h (by decide)
  | opening | closing | comma => exact ha rfl

theorem not_isBlank_of_starts (h : t.starts c = true) : isBlank c = false := by
  cases t with
  | word => exact not_isBlank_of_isWordChar h
  | operator => exact not_isBlank_of_isOperatorChar h
  | quoted | opening | closing | comma =>
    obtain rfl := eq_of_beq h
    decide

/-- A token runs on only with what begins a token of its own kind. -/
theorem merges_of_absorbs (ha : t.absorbs c = true) (hu : u.starts c = true) :
    t.merges u = true := by
  cases t with
  | word =>
    have hw : isWordChar c = true := ha
    cases u with
    | word => rfl
    | operator => simp [not_isWordChar_of_isOperatorChar hu] at hw
    | quoted | opening | closing | comma =>
      obtain rfl := eq_of_beq hu
      exact absurd hw (by decide)
  | operator =>
    have ho : isOperatorChar c = true := ha
    cases u with
    | operator => rfl
    | word => simp [not_isWordChar_of_isOperatorChar ho, starts] at hu
    | quoted | opening | closing | comma =>
      obtain rfl := eq_of_beq hu
      exact absurd ho (by decide)
  | quoted =>
    obtain rfl := eq_of_beq ha
    cases u with
    | quoted => rfl
    | word => exact absurd (show isWordChar Text.Quoted.mark = true from hu) (by decide)
    | operator => exact absurd (show isOperatorChar Text.Quoted.mark = true from hu) (by decide)
    | opening | closing | comma => exact absurd hu (by decide)
  | opening | closing | comma => cases ha

theorem absorbs_of_merges (hm : t.merges u = true) (hu : u.starts c = true) :
    t.absorbs c = true := by
  cases t with
  | word | operator | quoted =>
    cases u <;> first | exact hu | cases hm
  | opening | closing | comma => cases hm

theorem WellFormed.exists_starts (h : t.WellFormed) :
    ∃ c s, t.chars = c :: s ∧ t.starts c = true := by
  cases t with
  | word text | operator text =>
    obtain ⟨c, s, hs⟩ := List.exists_cons_of_ne_nil h.1
    exact ⟨c, s, hs, h.2 c (by simp [hs])⟩
  | quoted | opening | closing | comma => exact ⟨_, _, rfl, by simp [starts]⟩

theorem read_word (hc : isWordChar c = true) : read offset c s =
    .ok (word (String.ofList (c :: s.takeWhile isWordChar)), s.dropWhile isWordChar) := by
  obtain ⟨h₁, h₂, h₃, h₄⟩ := ne_of_isWordChar hc
  have ho : ¬ isOperatorChar c = true := fun ho => by
    simp [not_isWordChar_of_isOperatorChar ho] at hc
  rw [read, if_neg h₁, if_neg h₂, if_neg h₃, if_neg h₄, if_neg ho, if_pos hc]

theorem read_operator (hc : isOperatorChar c = true) :
    read offset c s = .ok (operator (String.ofList (c :: s.takeWhile isOperatorChar)),
      s.dropWhile isOperatorChar) := by
  obtain ⟨h₁, h₂, h₃, h₄⟩ := ne_of_isOperatorChar hc
  rw [read, if_neg h₁, if_neg h₂, if_neg h₃, if_neg h₄, if_pos hc]

theorem read_quoted {text : List Char} (h : Text.Quoted.read s = some (text, rest)) :
    read offset Text.Quoted.mark s = .ok (quoted (String.ofList text), rest) := by
  rw [read, if_neg (by decide), if_neg (by decide), if_neg (by decide), if_pos rfl, h]

theorem spelled_of_read (h : read offset c s = .ok (t, rest)) :
    c :: s = t.chars ++ rest ∧ t.WellFormed ∧ Ends t.absorbs rest := by
  have run (p : Char → Bool) (hp : p c = true) : ∀ d ∈ c :: s.takeWhile p, p d = true :=
    List.forall_mem_cons.2 ⟨hp, fun d hd => List.mem_takeWhile_imp hd⟩
  unfold read at h
  split at h
  · next hc =>
    obtain ⟨rfl, rfl⟩ := Prod.mk.inj (Except.ok.inj h)
    exact ⟨by simp [hc, chars], trivial, fun _ _ => rfl⟩
  split at h
  · next hc =>
    obtain ⟨rfl, rfl⟩ := Prod.mk.inj (Except.ok.inj h)
    exact ⟨by simp [hc, chars], trivial, fun _ _ => rfl⟩
  split at h
  · next hc =>
    obtain ⟨rfl, rfl⟩ := Prod.mk.inj (Except.ok.inj h)
    exact ⟨by simp [hc, chars], trivial, fun _ _ => rfl⟩
  split at h
  · next hc =>
    split at h
    · next text after hr =>
      obtain ⟨rfl, rfl⟩ := Prod.mk.inj (Except.ok.inj h)
      obtain ⟨rfl, he⟩ := Text.Quoted.read_eq_some_iff.1 hr
      refine ⟨by simp [hc, chars, Text.Quoted.write_append], trivial, fun d hd => ?_⟩
      simpa [absorbs] using fun hm : d = Text.Quoted.mark => he (hm ▸ hd)
    · cases h
  split at h
  · next hc =>
    obtain ⟨rfl, rfl⟩ := Prod.mk.inj (Except.ok.inj h)
    exact ⟨by simp [chars], ⟨by simp, by simpa using run isOperatorChar hc⟩,
      Text.ends_dropWhile isOperatorChar s⟩
  split at h
  · next hc =>
    obtain ⟨rfl, rfl⟩ := Prod.mk.inj (Except.ok.inj h)
    exact ⟨by simp [chars], ⟨by simp, by simpa using run isWordChar hc⟩,
      Text.ends_dropWhile isWordChar s⟩
  · cases h

/-- A run that could not have been longer is the one that its first character begins. -/
theorem run_of_append {p : Char → Bool} {text : String} (hne : text.toList ≠ [])
    (hp : ∀ d ∈ text.toList, p d = true) (he : Ends p rest) (h : c :: s = text.toList ++ rest) :
    p c = true ∧ String.ofList (c :: s.takeWhile p) = text ∧ s.dropWhile p = rest := by
  obtain ⟨d, w, hd⟩ := List.exists_cons_of_ne_nil hne
  rw [hd, List.cons_append] at h
  obtain ⟨rfl, rfl⟩ := List.cons.inj h
  obtain ⟨hc, hw⟩ := List.forall_mem_cons.1 (hd ▸ hp)
  rw [Text.takeWhile_append_of_ends hw he, Text.dropWhile_append_of_ends hw he, ← hd,
    String.ofList_toList]
  exact ⟨hc, rfl, rfl⟩

theorem read_of_spelled (h : c :: s = t.chars ++ rest) (hw : t.WellFormed)
    (he : Ends t.absorbs rest) : read offset c s = .ok (t, rest) := by
  cases t with
  | word text =>
    obtain ⟨hc, ht, hr⟩ := run_of_append hw.1 hw.2 he h
    rw [read_word hc, ht, hr]
  | operator text =>
    obtain ⟨hc, ht, hr⟩ := run_of_append hw.1 hw.2 he h
    rw [read_operator hc, ht, hr]
  | quoted text =>
    rw [chars, Text.Quoted.write_append] at h
    obtain ⟨rfl, rfl⟩ := List.cons.inj h
    have hr : rest.head? ≠ some Text.Quoted.mark := fun hm => by simpa [absorbs] using he _ hm
    rw [read_quoted (Text.Quoted.read_eq_some_iff.2 ⟨rfl, hr⟩), String.ofList_toList]
  | opening | closing | comma =>
    obtain ⟨rfl, rfl⟩ := List.cons.inj h
    rfl

theorem read_eq_ok_iff : read offset c s = .ok (t, rest) ↔
    c :: s = t.chars ++ rest ∧ t.WellFormed ∧ Ends t.absorbs rest :=
  ⟨spelled_of_read, fun ⟨h, hw, he⟩ => read_of_spelled h hw he⟩

end Token

end ColumnFilter
