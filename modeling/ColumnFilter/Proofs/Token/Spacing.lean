import ColumnFilter.Proofs.Token.Lexeme
import Mathlib.Data.List.Chain

/-! # Tokens laid out in a text

A text is read as the tokens it is laid out in: blanks stand before each token
and behind the last, and no token could have been read on. Tokens that do not
merge with their neighbours may stand with any blanks or none between them.
-/

namespace ColumnFilter

namespace Token

open Text (isBlank Blanks Ends byteLength)

variable {t : Token} {c : Char} {s rest : List Char} {offset : Nat}

theorem readAll_of_isBlank (h : isBlank c = true) :
    readAll offset (c :: s) = readAll (offset + c.utf8Size) s := by
  rw [readAll, if_pos h]

theorem readAll_of_read (hc : isBlank c = false) (h : read offset c s = .ok (t, rest)) :
    readAll offset (c :: s) =
      (readAll (offset + byteLength t.chars) rest).map (⟨t, offset⟩ :: ·) := by
  rw [readAll, if_neg (by simp [hc])]
  split
  · next he => simp [he] at h
  · next he =>
    obtain ⟨rfl, rfl⟩ := Prod.mk.inj (Except.ok.inj (he.symm.trans h))
    rfl

theorem readAll_blanks_append {g : List Char} (h : Blanks g) :
    readAll offset (g ++ s) = readAll (offset + byteLength g) s := by
  induction g generalizing offset with
  | nil => rfl
  | cons c g ih =>
    obtain ⟨hc, hg⟩ := Text.blanks_cons.1 h
    rw [List.cons_append, readAll_of_isBlank hc, ih hg, Text.byteLength_cons, Nat.add_assoc]

theorem readAll_chars_append (ht : t.WellFormed) (he : Ends t.absorbs rest) :
    readAll offset (t.chars ++ rest) =
      (readAll (offset + byteLength t.chars) rest).map (⟨t, offset⟩ :: ·) := by
  obtain ⟨c, w, hc, hs⟩ := ht.exists_starts
  have hw : c :: (w ++ rest) = t.chars ++ rest := by rw [hc]; rfl
  rw [← hw, readAll_of_read (not_isBlank_of_starts hs) (read_eq_ok_iff.2 ⟨hw, ht, he⟩)]

/-- A gap is needed only before a token that the one in front of it would merge with. -/
theorem ends_gap_iff {u : Token} {g : List Char} (hg : Blanks g) (hu : u.WellFormed) :
    Ends t.absorbs (g ++ (u.chars ++ rest)) ↔ (t.merges u = true → g ≠ []) := by
  obtain ⟨c, w, hc, hs⟩ := hu.exists_starts
  cases g with
  | nil =>
    rw [List.nil_append, hc, List.cons_append, Text.ends_cons]
    constructor
    · intro ha hm
      simp [absorbs_of_merges hm hs] at ha
    · intro h
      exact Bool.eq_false_iff.2 fun ha => h (merges_of_absorbs ha hs) rfl
  | cons d g =>
    have hd := not_absorbs_of_isBlank t (Text.blanks_cons.1 hg).1
    simp [hd]

/-- The tokens that a text beginning at an offset is laid out in. -/
inductive Laid : Nat → List Char → List Placed → Prop
  | done {offset g} : Blanks g → Laid offset g []
  | next {offset g t rest ps} : Blanks g → WellFormed t → Ends t.absorbs rest →
      Laid (offset + byteLength g + byteLength t.chars) rest ps →
      Laid offset (g ++ (t.chars ++ rest)) (⟨t, offset + byteLength g⟩ :: ps)

theorem Laid.cons_blank {ps : List Placed} (hc : isBlank c = true)
    (h : Laid (offset + c.utf8Size) s ps) : Laid offset (c :: s) ps := by
  cases h with
  | done hg => exact .done (Text.blanks_cons.2 ⟨hc, hg⟩)
  | @next _ g t rest ps hg hw he hl =>
    have hl' : Laid (offset + byteLength (c :: g) + byteLength t.chars) rest ps := by
      rwa [Text.byteLength_cons, ← Nat.add_assoc]
    have := Laid.next (Text.blanks_cons.2 ⟨hc, hg⟩) hw he hl'
    rwa [Text.byteLength_cons, ← Nat.add_assoc] at this

theorem laid_of_readAll {ps : List Placed} (h : readAll offset s = .ok ps) : Laid offset s ps := by
  fun_induction readAll offset s generalizing ps with
  | case1 => cases h; exact .done Text.blanks_nil
  | case2 offset c s hc ih => exact (ih h).cons_blank hc
  | case3 => cases h
  | case4 offset c s hc t rest hr _ ih =>
    obtain ⟨hs, hw, he⟩ := read_eq_ok_iff.1 hr
    cases hl : readAll (offset + byteLength t.chars) rest with
    | error e => rw [hl] at h; cases h
    | ok qs =>
      rw [hl] at h
      cases h
      rw [hs]
      exact .next (g := []) Text.blanks_nil hw he (ih hl)

theorem readAll_of_laid {ps : List Placed} (h : Laid offset s ps) : readAll offset s = .ok ps := by
  induction h with
  | @done offset g hg =>
    rw [← List.append_nil g, readAll_blanks_append hg, readAll]
  | next hg hw he _ ih =>
    rw [readAll_blanks_append hg, readAll_chars_append hw he, ih]
    rfl

/-- A text is read as exactly the tokens that it is laid out in. -/
theorem readAll_eq_ok_iff {ps : List Placed} : readAll offset s = .ok ps ↔ Laid offset s ps :=
  ⟨laid_of_readAll, readAll_of_laid⟩

def Spaced : List Token → List Char → Prop
  | [], s => Blanks s
  | t :: ts, s => ∃ g rest, Blanks g ∧ s = g ++ (t.chars ++ rest) ∧ Spaced ts rest

/-- Tokens that can be read back one by one wherever they stand next to each other. -/
structure Separate (ts : List Token) : Prop where
  wellFormed : ∀ t ∈ ts, t.WellFormed
  chain : ts.IsChain fun t u => t.merges u = false

theorem Spaced.cons_blank {ts : List Token} (hc : isBlank c = true) (h : Spaced ts s) :
    Spaced ts (c :: s) := by
  cases ts with
  | nil => exact Text.blanks_cons.2 ⟨hc, h⟩
  | cons t ts =>
    obtain ⟨g, rest, hg, rfl, hr⟩ := h
    exact ⟨c :: g, rest, Text.blanks_cons.2 ⟨hc, hg⟩, rfl, hr⟩

theorem separate_nil : Separate [] := ⟨by simp, .nil⟩

theorem Separate.cons {ts : List Token} (ht : t.WellFormed)
    (hm : ∀ u ∈ ts.head?, t.merges u = false) (h : Separate ts) : Separate (t :: ts) :=
  ⟨List.forall_mem_cons.2 ⟨ht, h.wellFormed⟩, h.chain.cons hm⟩

theorem Separate.tail {ts : List Token} (h : Separate (t :: ts)) : Separate ts :=
  ⟨(List.forall_mem_cons.1 h.wellFormed).2, h.chain.tail⟩

theorem Laid.spaced {ps : List Placed} (h : Laid offset s ps) :
    Spaced (ps.map Placed.token) s := by
  induction h with
  | done hg => exact hg
  | next hg _ _ _ ih => exact ⟨_, _, hg, rfl, ih⟩

theorem Spaced.ends {ts : List Token} (h : Spaced ts s) (hs : Separate (t :: ts)) :
    Ends t.absorbs s := by
  cases ts with
  | nil => exact fun c hc => not_absorbs_of_isBlank t (h c (List.mem_of_mem_head? hc))
  | cons u ts =>
    obtain ⟨g, rest, hg, rfl, -⟩ := h
    refine (ends_gap_iff hg (hs.wellFormed u (by simp))).2 fun hm => ?_
    simp [(List.isChain_cons_cons.1 hs.chain).1] at hm

theorem Spaced.exists_laid {ts : List Token} (h : Spaced ts s) (hs : Separate ts) :
    ∃ ps, Laid offset s ps ∧ ps.map Placed.token = ts := by
  induction ts generalizing offset s with
  | nil => exact ⟨[], .done h, rfl⟩
  | cons t ts ih =>
    obtain ⟨g, rest, hg, rfl, hr⟩ := h
    obtain ⟨ps, hl, rfl⟩ := ih hr hs.tail
    exact ⟨_ :: ps, .next hg (hs.wellFormed t (by simp)) (hr.ends hs) hl, rfl⟩

/-- Tokens that do not merge are read from just the texts that consist of them. -/
theorem exists_tokenize_iff {input : String} {ts : List Token} (hs : Separate ts) :
    (∃ ps, tokenize input = .ok ps ∧ ps.map Placed.token = ts) ↔ Spaced ts input.toList := by
  constructor
  · rintro ⟨ps, h, rfl⟩
    exact (readAll_eq_ok_iff.1 h).spaced
  · intro h
    obtain ⟨ps, hl, rfl⟩ := h.exists_laid hs
    exact ⟨ps, readAll_eq_ok_iff.2 hl, rfl⟩

end Token

end ColumnFilter
