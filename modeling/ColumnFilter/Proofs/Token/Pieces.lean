import ColumnFilter.Proofs.Token.Spacing

/-! # Texts in pieces

A text that is read is cut into its tokens and the gaps of blanks between them,
and nothing else. A gap may be empty unless the tokens on both sides of it are
words, operators or literals alike, and a token is placed at the number of
bytes in front of it. Every text that is put together so is read as its pieces.
-/

namespace ColumnFilter

namespace Text

theorem utf8ByteSize_ofList_eq (s : List Char) : (String.ofList s).utf8ByteSize = byteLength s := by
  induction s with
  | nil => rfl
  | cons c s ih =>
    rw [String.ofList_cons, String.utf8ByteSize_append, String.utf8ByteSize_singleton, ih,
      byteLength_cons]

end Text

namespace Token

open Text (Blanks Ends byteLength)

structure Piece where
  gap : List Char
  token : Token

namespace Piece

/-- The text of pieces with a gap behind the last of them. -/
def join (last : List Char) : List Piece → List Char
  | [] => last
  | p :: ps => p.gap ++ (p.token.chars ++ join last ps)

/-- The tokens of pieces that begin at an offset, each with the offset of its first byte. -/
def place (offset : ℕ) : List Piece → List Placed
  | [] => []
  | p :: ps =>
    let start := offset + byteLength p.gap
    ⟨p.token, start⟩ :: place (start + byteLength p.token.chars) ps

/-- The gaps are blank, the tokens well formed, and tokens that would merge stand apart. -/
structure Apart (ps : List Piece) : Prop where
  blanks : ∀ p ∈ ps, Blanks p.gap
  wellFormed : ∀ p ∈ ps, p.token.WellFormed
  chain : ps.IsChain fun p q => p.token.merges q.token = true → q.gap ≠ []

instance (ps : List Piece) : Decidable (Apart ps) :=
  decidable_of_iff ((∀ p ∈ ps, Blanks p.gap) ∧ (∀ p ∈ ps, p.token.WellFormed) ∧
      ps.IsChain fun p q => p.token.merges q.token = true → q.gap ≠ [])
    ⟨fun ⟨hb, hw, hc⟩ => ⟨hb, hw, hc⟩, fun h => ⟨h.blanks, h.wellFormed, h.chain⟩⟩

variable {p : Piece} {ps : List Piece} {s last : List Char} {offset : ℕ}

theorem Apart.tail (h : Apart (p :: ps)) : Apart ps :=
  ⟨(List.forall_mem_cons.1 h.blanks).2, (List.forall_mem_cons.1 h.wellFormed).2, h.chain.tail⟩

theorem Apart.ends (h : Apart (p :: ps)) (hl : Blanks last) :
    Ends p.token.absorbs (join last ps) := by
  cases ps with
  | nil => exact fun c hc => not_absorbs_of_isBlank _ (hl c (List.mem_of_mem_head? hc))
  | cons q ps =>
    exact (ends_gap_iff (h.blanks q (by simp)) (h.wellFormed q (by simp))).2
      (List.isChain_cons_cons.1 h.chain).1

theorem Apart.cons (hg : Blanks p.gap) (hw : p.token.WellFormed) (h : Apart ps)
    (he : Ends p.token.absorbs (join last ps)) : Apart (p :: ps) := by
  refine ⟨List.forall_mem_cons.2 ⟨hg, h.blanks⟩, List.forall_mem_cons.2 ⟨hw, h.wellFormed⟩, ?_⟩
  refine h.chain.cons fun q hq => ?_
  obtain ⟨qs, rfl⟩ := List.head?_eq_some_iff.1 hq
  exact (ends_gap_iff (h.blanks q (by simp)) (h.wellFormed q (by simp))).1 he

theorem laid_join (h : Apart ps) (hl : Blanks last) :
    Laid offset (join last ps) (place offset ps) := by
  induction ps generalizing offset with
  | nil => exact .done hl
  | cons p ps ih =>
    exact .next (h.blanks p (by simp)) (h.wellFormed p (by simp)) (h.ends hl) (ih h.tail)

theorem exists_of_laid {qs : List Placed} (h : Laid offset s qs) :
    ∃ ps last, Apart ps ∧ Blanks last ∧ s = join last ps ∧ qs = place offset ps := by
  induction h with
  | @done _ g hg => exact ⟨[], g, ⟨by simp, by simp, .nil⟩, hg, rfl, rfl⟩
  | @next _ g t _ _ hg hw he _ ih =>
    obtain ⟨ps, last, ha, hl, rfl, rfl⟩ := ih
    exact ⟨⟨g, t⟩ :: ps, last, .cons hg hw ha he, hl, rfl, rfl⟩

theorem le_offset_of_mem_place {q : Placed} (h : q ∈ place offset ps) : offset ≤ q.offset := by
  induction ps generalizing offset with
  | nil => cases h
  | cons p ps ih =>
    rcases List.mem_cons.1 h with rfl | h
    · exact Nat.le_add_right _ _
    · have := ih h
      omega

theorem byteLength_chars_pos {t : Token} (h : t.WellFormed) : 0 < byteLength t.chars := by
  obtain ⟨c, w, hc, -⟩ := h.exists_starts
  rw [hc, Text.byteLength_cons]
  have := c.utf8Size_pos
  omega

theorem pairwise_place (h : ∀ p ∈ ps, p.token.WellFormed) :
    (place offset ps).Pairwise fun q r => q.offset < r.offset := by
  induction ps generalizing offset with
  | nil => exact .nil
  | cons p ps ih =>
    obtain ⟨hp, hps⟩ := List.forall_mem_cons.1 h
    refine .cons (fun q hq => ?_) (ih hps)
    have hq := le_offset_of_mem_place hq
    have := byteLength_chars_pos hp
    simp only
    omega

theorem exists_append_of_mem_place {q : Placed} (last : List Char) (h : q ∈ place offset ps) :
    ∃ u v, join last ps = u ++ (q.token.chars ++ v) ∧ q.offset = offset + byteLength u := by
  induction ps generalizing offset with
  | nil => cases h
  | cons p ps ih =>
    rcases List.mem_cons.1 h with rfl | h
    · exact ⟨p.gap, join last ps, rfl, rfl⟩
    · obtain ⟨u, v, hu, hq⟩ := ih h
      refine ⟨p.gap ++ (p.token.chars ++ u), v, by simp [join, hu], ?_⟩
      simp only [Text.byteLength_append]
      omega

end Piece

open Piece in
/-- Tokens are read from just the texts that are made of them and of gaps between them. They stand
one behind the other, each at the number of bytes of the text in front of it, and whatever is put
together so is read as its tokens. -/
theorem tokenize_eq_ok_iff_join (input : String) :
    (∀ qs, tokenize input = .ok qs ↔
      ∃ ps last, Apart ps ∧ Blanks last ∧ input.toList = join last ps ∧ qs = place 0 ps) ∧
    (∀ qs, tokenize input = .ok qs → (qs.Pairwise fun q r => q.offset < r.offset) ∧
      ∀ q ∈ qs, ∃ u v, input = u ++ q.token.render ++ v ∧ q.offset = u.utf8ByteSize) ∧
    ∀ ps last, Apart ps → Blanks last →
      tokenize (String.ofList (join last ps)) = .ok (place 0 ps) := by
  have hread (ps last) (ha : Apart ps) (hl : Blanks last) :
      tokenize (String.ofList (join last ps)) = .ok (place 0 ps) := by
    rw [tokenize, String.toList_ofList]
    exact readAll_of_laid (laid_join ha hl)
  refine ⟨fun qs => ⟨fun h => exists_of_laid (laid_of_readAll h), ?_⟩, fun qs h => ?_, hread⟩
  · rintro ⟨ps, last, ha, hl, hs, rfl⟩
    rw [← hread ps last ha hl, ← hs, String.ofList_toList]
  · obtain ⟨ps, last, ha, hl, hs, rfl⟩ := exists_of_laid (laid_of_readAll h)
    refine ⟨pairwise_place ha.wellFormed, fun q hq => ?_⟩
    obtain ⟨u, v, hu, ho⟩ := exists_append_of_mem_place last hq
    refine ⟨String.ofList u, String.ofList v, ?_, ?_⟩
    · rw [← String.toList_inj, hs, hu]
      simp [render]
    · rw [Text.utf8ByteSize_ofList_eq, ho, Nat.zero_add]

/-- Literals are told apart by a gap, while a word and a literal need none. -/
theorem tokenize_join_literals :
    tokenize " né'it''s'\u2003''<=" =
      .ok [⟨.word "né", 1⟩, ⟨.quoted "it's", 4⟩, ⟨.quoted "", 14⟩, ⟨.operator "<=", 16⟩] := by
  exact (tokenize_eq_ok_iff_join "").2.2 [⟨[' '], word "né"⟩, ⟨[], quoted "it's"⟩,
    ⟨['\u2003'], quoted ""⟩, ⟨[], operator "<="⟩] [] (by decide +kernel) (by decide)

end Token

end ColumnFilter
