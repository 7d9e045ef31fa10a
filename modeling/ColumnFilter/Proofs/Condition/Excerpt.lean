import ColumnFilter.Proofs.Condition.Shape
import ColumnFilter.Proofs.Token.Faults

/-! # What errors quote

An error of reading an expression carries the whole text, and what it quotes of
the text stands there. A token that is at fault is quoted as it is written, a
literal with its quotes doubled again, and a place that is named is the number
of bytes in front of what is quoted.
-/

namespace ColumnFilter

/-- The piece stands in the text, with so many bytes in front of it. -/
def Text.StandsAt (piece : String) (offset : ℕ) (input : String) : Prop :=
  ∃ u v, input = u ++ piece ++ v ∧ u.utf8ByteSize = offset

def Text.Occurs (piece input : String) : Prop := ∃ offset, Text.StandsAt piece offset input

open Text (StandsAt Occurs)

/-- What the error quotes stands in the text, and at the place that it names, if it names one. -/
def SyntaxError.QuotedFrom (input : String) : SyntaxError → Prop
  | lexical (.strayCharacter c offset) => StandsAt (String.singleton c) offset input
  | lexical (.unclosedLiteral offset) => StandsAt (String.singleton Text.Quoted.mark) offset input
  | unexpectedToken token offset => StandsAt token.render offset input
  | unknownFilter text | invalidComparator text => Occurs text input
  | invalidFlag found | unquoted _ found => Occurs found.render input
  | blank | unexpectedEnd | emptyArgument _ | missingArgument _ | tooManyArguments _ => True

namespace Condition

open Token Outcome

variable {input : String} {ps : List Placed} {args : List Token} {e : SyntaxError}

theorem standsAt_of_tokenize (h : tokenize input = .ok ps) :
    ∀ p ∈ ps, StandsAt p.token.render p.offset input := by
  intro p hp
  obtain ⟨pieces, last, -, -, hs, rfl⟩ := Piece.exists_of_laid (laid_of_readAll h)
  obtain ⟨u, v, hu, ho⟩ := Piece.exists_append_of_mem_place last hp
  refine ⟨String.ofList u, String.ofList v, ?_, ?_⟩
  · rw [← String.toList_inj, hs, hu]
    simp [Token.render]
  · rw [Text.utf8ByteSize_ofList_eq, ho, Nat.zero_add]

theorem quotedFrom_lexical {e : LexicalError} (h : tokenize input = .error e) :
    (SyntaxError.lexical e).QuotedFrom input := by
  obtain ⟨u, v, c, hs, -, -, hv⟩ := tokenize_eq_error_iff_stops.1 h
  cases hv with
  | stray => exact ⟨u, v, hs, rfl⟩
  | unclosed => exact ⟨u, v, hs, rfl⟩

theorem quotedFrom_stop {rest : List Placed}
    (h : ∀ p ∈ rest, StandsAt p.token.render p.offset input) : (stop rest).QuotedFrom input := by
  cases rest with
  | nil => trivial
  | cons p rest => exact h p List.mem_cons_self

theorem quotedFrom_readCall (hps : ∀ p ∈ ps, StandsAt p.token.render p.offset input)
    (h : readCall ps = .error e) : e.QuotedFrom input := by
  by_cases hn : ∀ name, (ps.map Placed.token).head? = some (.word name) → name = filterName
  · obtain ⟨front, rest, rfl, rfl, -⟩ := longest_of_readCall h hn
    exact quotedFrom_stop fun p hp => hps p (List.mem_append_right _ hp)
  · push Not at hn
    obtain ⟨name, hh, hne⟩ := hn
    obtain rfl := Except.error.inj ((readCall_of_ne hh hne).symm.trans h)
    obtain ⟨p, hp, ht⟩ := List.mem_map.1 (List.mem_of_mem_head? hh)
    have hs := hps p hp
    rw [ht, Token.render, Token.chars, String.ofList_toList] at hs
    exact ⟨_, hs⟩

theorem mem_callTokens {a : Token} (h : a ∈ args) : a ∈ callTokens args := by
  have hi : a ∈ args.intersperse .comma := by
    induction args with
    | nil => cases h
    | cons b args ih =>
      cases args with
      | nil => exact h
      | cons c args =>
        rw [List.intersperse_cons_cons, List.mem_cons, List.mem_cons]
        exact (List.mem_cons.1 h).imp_right fun h => .inr (ih h)
  simp [callTokens, hi]

section Arguments

variable {found : Option Token} {argument : Argument}

theorem quotedFrom_readName (h : ∀ a ∈ found, Occurs a.render input) :
    ∀ e, readName argument found = .error e → e.QuotedFrom input := by
  fun_cases readName argument found with
  | case1 => rintro _ ⟨⟩; trivial
  | case2 => rintro _ ⟨⟩; trivial
  | case3 => rintro _ ⟨⟩
  | case4 t => rintro _ ⟨⟩; exact h t rfl

theorem quotedFrom_readComparator (h : ∀ a ∈ found, Occurs a.render input) :
    ∀ e, readComparator found = .error e → e.QuotedFrom input := by
  fun_cases readComparator found with
  | case1 => rintro _ ⟨⟩; trivial
  | case2 => rintro _ ⟨⟩
  | case3 text =>
    rintro _ ⟨⟩
    have ht := h _ rfl
    rwa [Token.render, Token.chars, String.ofList_toList] at ht
  | case4 t => rintro _ ⟨⟩; exact h t rfl

theorem quotedFrom_readValue (h : ∀ a ∈ found, Occurs a.render input) :
    ∀ e, readValue found = .error e → e.QuotedFrom input := by
  fun_cases readValue found with
  | case1 => rintro _ ⟨⟩; trivial
  | case2 => rintro _ ⟨⟩
  | case3 t => rintro _ ⟨⟩; exact h t rfl

theorem quotedFrom_readFlag {default : Bool} (h : ∀ a ∈ found, Occurs a.render input) :
    ∀ e, readFlag default found = .error e → e.QuotedFrom input := by
  fun_cases readFlag default found with
  | case1 => rintro _ ⟨⟩
  | case2 => rintro _ ⟨⟩
  | case3 text => rintro _ ⟨⟩; exact h _ rfl
  | case4 t => rintro _ ⟨⟩; exact h t rfl

theorem quotedFrom_ofArguments (h : ∀ a ∈ args, Occurs a.render input) :
    ∀ e, ofArguments args = .error e → e.QuotedFrom input := by
  have hi (i : ℕ) : ∀ a ∈ args[i]?, Occurs a.render input := fun a ha =>
    h a (List.mem_of_getElem? ha)
  unfold ofArguments
  split
  · rintro _ ⟨⟩
    trivial
  refine forall_error_bind (quotedFrom_readName (hi 0)) fun _ => ?_
  refine forall_error_bind (quotedFrom_readName (hi 1)) fun _ => ?_
  refine forall_error_bind (quotedFrom_readComparator (hi 2)) fun _ => ?_
  refine forall_error_bind (quotedFrom_readValue (hi 3)) fun _ => ?_
  refine forall_error_bind (quotedFrom_readFlag (hi 4)) fun _ => ?_
  refine forall_error_bind (quotedFrom_readFlag (hi 5)) fun _ => ?_
  rintro _ ⟨⟩

end Arguments

theorem quotedFrom_read (h : Condition.read input = .error e) : e.QuotedFrom input := by
  by_cases hb : Text.Blanks input.toList
  · rw [read_of_blanks hb] at h
    obtain rfl := Except.error.inj h
    trivial
  cases ht : tokenize input with
  | error e' =>
    rw [read_of_lexicalError hb ht] at h
    obtain rfl := Except.error.inj h
    exact quotedFrom_lexical ht
  | ok ps =>
    have hps := standsAt_of_tokenize ht
    rw [read_of_tokenize hb ht] at h
    rcases bind_eq_error_iff.1 h with h | ⟨args, hc, h⟩
    · exact quotedFrom_readCall hps h
    · refine quotedFrom_ofArguments (fun a ha => ?_) e h
      have hm := mem_callTokens ha
      rw [← (readCall_eq_ok_iff.1 hc).2] at hm
      obtain ⟨p, hp, rfl⟩ := List.mem_map.1 hm
      exact ⟨_, hps p hp⟩

/-- An error carries the text that is no expression. The character, the quote or the token that it
places stands at its place, and the name or the argument that it quotes stands in the text. -/
theorem parse_error_quotes {r : Rejection} (h : parse input = .error r) :
    r.input = input ∧ r.cause.QuotedFrom input := by
  obtain ⟨e, he, rfl⟩ := mapError_eq_error_iff.1 h
  exact ⟨rfl, quotedFrom_read he⟩

/-- A literal that is quoted has its quotes doubled as they are in the text. -/
theorem parse_error_quotes_literal :
    parse "\u2003SingleColumnValueFilter('a', 'b', 'it''s', 'c')" =
        .error ⟨"\u2003SingleColumnValueFilter('a', 'b', 'it''s', 'c')",
          .invalidComparator "'it''s'"⟩ ∧
      Occurs "'it''s'" "\u2003SingleColumnValueFilter('a', 'b', 'it''s', 'c')" := by
  have h : parse "\u2003SingleColumnValueFilter('a', 'b', 'it''s', 'c')" =
      .error ⟨"\u2003SingleColumnValueFilter('a', 'b', 'it''s', 'c')",
        .invalidComparator "'it''s'"⟩ := by
    decide +kernel
  exact ⟨h, (parse_error_quotes h).2⟩

end Condition

end ColumnFilter
