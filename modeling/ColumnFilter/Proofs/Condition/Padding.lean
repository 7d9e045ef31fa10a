import ColumnFilter.Proofs.Condition.Shape
import ColumnFilter.Proofs.Token.Padding

/-! # Padded expressions

Blanks around an expression do not change the condition that it is read as, nor
what is wrong with it. Only the places that an error names are counted from the
beginning of the whole text, the blanks in front of the expression included.
-/

namespace ColumnFilter

@[simp] theorem Placed.token_moved (k : ℕ) (p : Placed) : (p.moved k).token = p.token := rfl

/-- The error of an expression that so many bytes are put in front of. -/
def SyntaxError.moved (k : ℕ) : SyntaxError → SyntaxError
  | lexical e => .lexical (e.moved k)
  | unexpectedToken token offset => .unexpectedToken token (k + offset)
  | e => e

theorem SyntaxError.moved_of_not_isOfShape {e : SyntaxError} (h : e.isOfShape = false) (k : ℕ) :
    e.moved k = e := by
  cases e <;> first | rfl | cases h

namespace Condition

open Token Outcome
open Text (Blanks)

section Calls

variable (k : ℕ) (ps : List Placed)

theorem readArguments_moved : readArguments (ps.map (Placed.moved k)) =
    ((readArguments ps).mapError (SyntaxError.moved k)).map
      fun (args, after) => (args, after.map (Placed.moved k)) := by
  fun_induction readArguments ps with
  | case1 => rfl
  | case2 p hp => exact if_pos hp
  | case3 p hp => exact if_neg hp
  | case4 p q rest hp hq ih =>
    simp only [List.map_cons, readArguments, Placed.token_moved, if_pos hp, hq, ih]
    cases readArguments rest <;> rfl
  | case5 p q rest hp hq =>
    simp only [List.map_cons, readArguments, Placed.token_moved, if_pos hp, hq]
    rfl
  | case6 p q rest hp hcomma hclosing =>
    simp only [List.map_cons, readArguments, Placed.token_moved, if_pos hp]
    rfl
  | case7 p q rest hp => exact if_neg hp

theorem finish_moved (args : List Token) : readCall.finish args (ps.map (Placed.moved k)) =
    (readCall.finish args ps).mapError (SyntaxError.moved k) := by
  cases ps <;> rfl

theorem readCall_moved :
    readCall (ps.map (Placed.moved k)) = (readCall ps).mapError (SyntaxError.moved k) := by
  fun_cases readCall ps with
  | case1 => rfl
  | case2 name offset rest hn =>
    simp only [List.map_cons, Placed.moved, readCall, if_pos hn]
    rfl
  | case3 name offset hn =>
    simp only [List.map_cons, Placed.moved, readCall, if_neg hn]
    rfl
  | case4 name offset hn =>
    simp only [List.map_cons, Placed.moved, readCall, if_neg hn]
    exact finish_moved k _ _
  | case5 name offset hn _ rest hc =>
    have hc' : ∀ offset after, rest.map (Placed.moved k) = ⟨.closing, offset⟩ :: after → False := by
      intro offset after h
      obtain ⟨⟨t, start⟩, ps, rfl, hp, -⟩ := List.map_eq_cons_iff.1 h
      obtain ⟨rfl, -⟩ := Placed.mk.inj hp
      exact hc start ps rfl
    simp only [List.map_cons, Placed.moved, readCall, if_neg hn]
    rw [readArguments_moved]
    cases readArguments rest with
    | error e => rfl
    | ok r => exact finish_moved k _ _
  | case6 name offset hn p rest _ hp =>
    obtain ⟨t, start⟩ := p
    simp only [List.map_cons, Placed.moved, readCall, if_neg hn]
    cases t with
    | opening => exact absurd rfl (hp start)
    | word | quoted | operator | closing | comma => rfl
  | case7 p rest hp =>
    obtain ⟨t, start⟩ := p
    simp only [List.map_cons, Placed.moved, readCall]
    cases t with
    | word name => exact absurd rfl (hp name start)
    | quoted | operator | opening | closing | comma => rfl

end Calls

theorem ofArguments_moved (k : ℕ) (args : List Token) :
    (ofArguments args).mapError (SyntaxError.moved k) = ofArguments args := by
  cases h : ofArguments args with
  | ok c => rfl
  | error e =>
    exact congrArg Except.error (e.moved_of_not_isOfShape (isOfShape_of_ofArguments e h) k)

variable {u v : String}

theorem blanks_padded_iff (hu : Blanks u.toList) (hv : Blanks v.toList) {input : String} :
    Blanks (u ++ input ++ v).toList ↔ Blanks input.toList := by
  rw [String.toList_append, String.toList_append]
  constructor
  · exact fun h c hc => h c (List.mem_append_left _ (List.mem_append_right _ hc))
  · exact fun h => List.forall_mem_append.2 ⟨List.forall_mem_append.2 ⟨hu, h⟩, hv⟩

theorem read_padded (hu : Blanks u.toList) (hv : Blanks v.toList) (input : String) :
    Condition.read (u ++ input ++ v) =
      (Condition.read input).mapError (SyntaxError.moved u.utf8ByteSize) := by
  have ht := tokenize_padded hu hv input
  by_cases hb : Blanks input.toList
  · rw [read_of_blanks hb, read_of_blanks ((blanks_padded_iff hu hv).2 hb)]
    rfl
  have hb' := mt (blanks_padded_iff hu hv).1 hb
  cases hi : tokenize input with
  | error e =>
    rw [hi] at ht
    rw [read_of_lexicalError hb hi, read_of_lexicalError hb' ht]
    rfl
  | ok ps =>
    rw [hi] at ht
    rw [read_of_tokenize hb hi, read_of_tokenize hb' ht, readCall_moved]
    cases readCall ps with
    | error e => rfl
    | ok args => exact (ofArguments_moved _ args).symm

/-- An expression between blanks is read as the condition that it is read as alone. If it is none,
it is rejected for what it is rejected for alone, at a place that is further on by the bytes in
front of it, and with its blanks. -/
theorem parse_padded (hu : Blanks u.toList) (hv : Blanks v.toList) (input : String) :
    (∀ c, parse input = .ok c → parse (u ++ input ++ v) = .ok c) ∧
      ∀ r, parse input = .error r →
        parse (u ++ input ++ v) = .error ⟨u ++ input ++ v, r.cause.moved u.utf8ByteSize⟩ := by
  rw [parse, parse, read_padded hu hv]
  cases Condition.read input with
  | ok c =>
    refine ⟨fun _ h => h, ?_⟩
    rintro _ ⟨⟩
  | error e =>
    constructor
    · rintro _ ⟨⟩
    · rintro _ ⟨⟩
      rfl

/-- The blanks behind a literal that is not closed are part of it, and a wide one in front of it
takes three bytes. -/
theorem parse_padded_unclosed :
    parse "F('it''s" = .error ⟨"F('it''s", .lexical (.unclosedLiteral 2)⟩ ∧
      parse "\u2003F('it''s \n" =
        .error ⟨"\u2003F('it''s \n", .lexical (.unclosedLiteral 5)⟩ := by
  have h : parse "F('it''s" = .error ⟨"F('it''s", .lexical (.unclosedLiteral 2)⟩ := by
    decide +kernel
  have hu : Blanks "\u2003".toList := by decide
  have hv : Blanks " \n".toList := by decide
  exact ⟨h, (parse_padded hu hv "F('it''s").2 _ h⟩

end Condition

end ColumnFilter
