import ColumnFilter.Condition.Printer
import ColumnFilter.Proofs.Condition.Grammar

/-! # Written conditions read back

The canonical expression of a condition is a call with all six arguments.
Reading it gives the condition again, whatever characters its texts hold,
unless a name is empty, and then the first empty name is what is reported.
-/

namespace ColumnFilter

namespace Condition

open Token (Spaced)

def writtenArguments (c : Condition) : List Token :=
  [.quoted c.family, .quoted c.qualifier, .operator c.comparator.symbol, .quoted (tag ++ c.value),
    .word (toString c.filterIfMissing), .word (toString c.latestVersionOnly)]

theorem spaced_intercalate (a : Token) (as : List Token) :
    Spaced ((a :: as).intersperse .comma ++ [.closing])
      ((", ".intercalate ((a :: as).map Token.render)).toList ++ [')']) := by
  induction as generalizing a with
  | nil =>
    refine ⟨[], [')'], Text.blanks_nil, by simp [Token.render], ?_⟩
    exact ⟨[], [], Text.blanks_nil, rfl, Text.blanks_nil⟩
  | cons b as ih =>
    have hb := (ih b).cons_blank (c := ' ') (by decide)
    refine ⟨[], _, Text.blanks_nil, ?_, [], _, Text.blanks_nil, rfl, hb⟩
    simp [Token.render, Token.chars]

theorem render_eq (c : Condition) : c.render =
    filterName ++ "(" ++ ", ".intercalate (c.writtenArguments.map Token.render) ++ ")" := by
  simp [render, writtenArguments, quote, Token.render, Token.chars]

theorem spaced_render (c : Condition) :
    Spaced (callTokens c.writtenArguments) c.render.toList := by
  refine ⟨[], _, Text.blanks_nil, ?_, [], _, Text.blanks_nil, rfl, spaced_intercalate _ _⟩
  simp [render_eq, writtenArguments, Token.chars]

theorem flag?_toString (b : Bool) : flag? (toString b) = some b := by
  cases b <;> rfl

theorem dropTag_tag_append (value : String) : dropTag (tag ++ value) = value :=
  dropTag_eq_iff.2 (.inl ⟨"binary".toList, by decide, by simp [tag]⟩)

theorem wellFormed_writtenArguments (c : Condition) :
    ∀ a ∈ c.writtenArguments, a.WellFormed ∧ isArgument a = true := by
  have hw (b : Bool) := wellFormed_of_flag? (flag?_toString b)
  simp only [writtenArguments, List.forall_mem_cons]
  exact ⟨⟨trivial, rfl⟩, ⟨trivial, rfl⟩, ⟨wellFormed_symbol _, rfl⟩, ⟨trivial, rfl⟩, ⟨hw _, rfl⟩,
    ⟨hw _, rfl⟩, by simp⟩

theorem ofArguments_writtenArguments (c : Condition) : ofArguments c.writtenArguments =
    if c.family = "" then .error (.emptyArgument .family)
    else if c.qualifier = "" then .error (.emptyArgument .qualifier)
    else .ok c := by
  split
  · next hf => simp [ofArguments, writtenArguments, maxArguments, readName, hf, bind, Except.bind]
  next hf =>
  split
  · next hq =>
    simp [ofArguments, writtenArguments, maxArguments, readName, hf, hq, bind, Except.bind]
  next hq =>
  exact ofArguments_of_denotes
    (.intro hf hq (dropTag_tag_append _) (.two (flag?_toString _) (flag?_toString _)))

theorem read_render (c : Condition) : read c.render = ofArguments c.writtenArguments :=
  read_of_spaced (fun a h => (c.wellFormed_writtenArguments a h).2)
    (fun a h => (c.wellFormed_writtenArguments a h).1) c.spaced_render

/-- What is written is read back, or else the first of the two names is reported that is empty. -/
theorem parse_render (c : Condition) : parse c.render =
    if c.family = "" then .error ⟨c.render, .emptyArgument .family⟩
    else if c.qualifier = "" then .error ⟨c.render, .emptyArgument .qualifier⟩
    else .ok c := by
  rw [parse, read_render, ofArguments_writtenArguments]
  split_ifs <;> rfl

end Condition

end ColumnFilter
