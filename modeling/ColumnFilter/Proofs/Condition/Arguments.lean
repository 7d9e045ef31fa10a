import ColumnFilter.Proofs.Condition.Grammar
import ColumnFilter.Proofs.Condition.Shape

/-! # Arguments from the left

The arguments of a call are looked at from the left. The first one that does not
fit its place is reported, or else the first place that has to be filled and is
not, whatever is wrong further on.
-/

namespace ColumnFilter

namespace Condition

open Token Outcome

/-- What fits a place among the arguments, the first of which is place zero. -/
def Fits : ℕ → Token → Prop
  | 0, a | 1, a => ∃ name, name ≠ "" ∧ a = .quoted name
  | 2, a => ∃ op : Comparator, a = .operator op.symbol
  | 3, a => ∃ literal, a = .quoted literal
  | _, a => ∃ (w : String) (b : Bool), SpellsFlag w.toList b ∧ a = .word w

def argumentAt : ℕ → Argument
  | 0 => .family
  | 1 => .qualifier
  | 2 => .comparator
  | _ => .value

def misfit (i : ℕ) (a : Token) : SyntaxError :=
  match i with
  | 0 | 1 => if a = .quoted "" then .emptyArgument (argumentAt i) else .unquoted (argumentAt i) a
  | 2 => .invalidComparator a.render
  | 3 => .unquoted (argumentAt i) a
  | _ => .invalidFlag a

/-- Reads the argument at a place for its errors alone. -/
def checkAt (i : ℕ) (found : Option Token) : Except SyntaxError Unit :=
  match i with
  | 0 | 1 => (readName (argumentAt i) found).map fun _ => ()
  | 2 => (readComparator found).map fun _ => ()
  | 3 => (readValue found).map fun _ => ()
  | 4 => (readFlag false found).map fun _ => ()
  | _ => (readFlag true found).map fun _ => ()

variable {i n : ℕ} {a : Token} {args : List Token} {e : SyntaxError}

section Chain

variable {f : ℕ → Except SyntaxError Unit}

theorem forM_range_succ : forM (List.range (n + 1)) f = forM (List.range n) f >>= fun _ => f n := by
  rw [List.range_succ, List.forM_append, List.forM_cons, List.forM_nil, bind_pure]

theorem forM_range_eq_ok (h : ∀ j < n, f j = .ok ()) : forM (List.range n) f = .ok () := by
  induction n with
  | zero => rfl
  | succ n ih =>
    rw [forM_range_succ, ih fun j hj => h j (by omega)]
    exact h n (by omega)

theorem forM_range_eq_error (hi : i < n) (h : ∀ j < i, f j = .ok ()) (he : f i = .error e) :
    forM (List.range n) f = .error e := by
  induction n with
  | zero => cases hi
  | succ n ih =>
    rw [forM_range_succ]
    rcases Nat.lt_succ_iff_lt_or_eq.1 hi with hlt | rfl
    · rw [ih hlt]
      rfl
    · rw [forM_range_eq_ok h]
      exact he

theorem map_bind_eq {α β : Type} {x : Except SyntaxError α} {g : α → Except SyntaxError β}
    {y : Except SyntaxError Unit} (h : ∀ a, (g a).map (fun _ => ()) = y) :
    (x >>= g).map (fun _ => ()) = x.map (fun _ => ()) >>= fun _ => y := by
  cases x with
  | error e => rfl
  | ok a => exact h a

/-- Apart from their values, arguments are read place by place. -/
theorem map_ofArguments (hl : args.length ≤ maxArguments) :
    (ofArguments args).map (fun _ => ()) =
      forM (List.range maxArguments) fun i => checkAt i args[i]? := by
  rw [ofArguments, if_neg (by omega)]
  refine map_bind_eq fun family => ?_
  refine map_bind_eq fun qualifier => ?_
  refine map_bind_eq fun comparator => ?_
  refine map_bind_eq fun value => ?_
  refine map_bind_eq fun filterIfMissing => ?_
  refine map_bind_eq fun latestVersionOnly => ?_
  rfl

end Chain

section Places

theorem checkAt_of_fits (h : Fits i a) : checkAt i (some a) = .ok () := by
  match i with
  | 0 | 1 =>
    obtain ⟨name, hn, rfl⟩ := h
    exact map_eq_ok_iff.2 ⟨name, readName_eq_ok_iff.2 ⟨rfl, hn⟩, rfl⟩
  | 2 =>
    obtain ⟨op, rfl⟩ := h
    exact map_eq_ok_iff.2 ⟨op, readComparator_eq_ok_iff.2 rfl, rfl⟩
  | 3 =>
    obtain ⟨literal, rfl⟩ := h
    rfl
  | 4 | i + 5 =>
    obtain ⟨w, b, hw, rfl⟩ := h
    exact map_eq_ok_iff.2 ⟨b, readFlag_eq_ok_iff.2 (.inr ⟨w, rfl, flag?_eq_some_iff.2 hw⟩), rfl⟩

theorem checkAt_of_not_fits (h : ¬ Fits i a) : checkAt i (some a) = .error (misfit i a) := by
  match i with
  | 0 | 1 =>
    cases a with
    | quoted name =>
      by_cases hn : name = ""
      · subst hn
        rfl
      · exact absurd ⟨name, hn, rfl⟩ h
    | word | operator | opening | closing | comma => rfl
  | 2 =>
    cases a with
    | operator text =>
      cases ht : Comparator.ofSymbol? text with
      | some op => exact absurd ⟨op, by rw [ofSymbol?_eq_some_iff.1 ht]⟩ h
      | none => simp [checkAt, readComparator, ht, misfit, Except.map, Token.render, Token.chars]
    | word | quoted | opening | closing | comma => rfl
  | 3 =>
    cases a with
    | quoted literal => exact absurd ⟨literal, rfl⟩ h
    | word | operator | opening | closing | comma => rfl
  | 4 | i + 5 =>
    cases a with
    | word w =>
      cases hw : flag? w with
      | some b => exact absurd ⟨w, b, flag?_eq_some_iff.1 hw, rfl⟩ h
      | none => simp [checkAt, readFlag, hw, misfit, Except.map]
    | quoted | operator | opening | closing | comma => rfl

theorem checkAt_none (hi : i < 4) : checkAt i none = .error (.missingArgument (argumentAt i)) := by
  match i with
  | 0 | 1 | 2 | 3 => rfl
  | i + 4 => omega

theorem checkAt_none_of_le (hi : 4 ≤ i) : checkAt i none = .ok () := by
  match i with
  | 0 | 1 | 2 | 3 => omega
  | 4 | i + 5 => rfl

end Places

/-- Up to the first place that has to be filled and is not, arguments that fit are accepted. -/
theorem checkAt_getElem? (h : ∀ i a, args[i]? = some a → Fits i a) (hi : i < args.length ∨ 4 ≤ i) :
    checkAt i args[i]? = .ok () := by
  cases ha : args[i]? with
  | some a => exact checkAt_of_fits (h i a ha)
  | none =>
    have hn := List.getElem?_eq_none_iff.1 ha
    exact checkAt_none_of_le (by omega)

theorem ofArguments_of_length_lt (h : maxArguments < args.length) :
    ofArguments args = .error (.tooManyArguments args.length) := by
  rw [ofArguments, if_pos h]
  rfl

theorem ofArguments_eq_error (hl : args.length ≤ maxArguments) (hi : i < maxArguments)
    (h : ∀ j < i, checkAt j args[j]? = .ok ()) (he : checkAt i args[i]? = .error e) :
    ofArguments args = .error e := by
  have hm := map_ofArguments hl
  rw [forM_range_eq_error hi h he] at hm
  exact map_eq_error_iff.1 hm

theorem exists_ofArguments_eq_ok (hl : args.length ≤ maxArguments)
    (h : ∀ j < maxArguments, checkAt j args[j]? = .ok ()) : ∃ c, ofArguments args = .ok c := by
  have hm := map_ofArguments hl
  rw [forM_range_eq_ok h] at hm
  obtain ⟨c, hc, -⟩ := map_eq_ok_iff.1 hm
  exact ⟨c, hc⟩

theorem parse_eq_of_callTokens {input : String} {ps : List Placed}
    (ht : tokenize input = .ok ps) (ha : ∀ a ∈ args, isArgument a = true)
    (hp : ps.map Placed.token = callTokens args) :
    parse input = (ofArguments args).mapError (⟨input, ·⟩) := by
  have hc := readCall_of_callTokens ha hp
  have hb : ¬ Text.Blanks input.toList := fun hb => by
    cases (Text.all_isBlank_iff.2 hb).symm.trans (not_blanks_of_readCall ht hc)
  rw [parse, read_of_tokenize hb ht, hc]
  rfl

/-- What is wrong with a call is that it has too many arguments, or else what is wrong with the
first of them that does not fit its place, or else that the next place has to be filled. -/
theorem parse_eq_by_arguments {input : String} {ps : List Placed} {args : List Token}
    (ht : tokenize input = .ok ps) (ha : ∀ a ∈ args, isArgument a = true)
    (hp : ps.map Placed.token = callTokens args) :
    (6 < args.length → parse input = .error ⟨input, .tooManyArguments args.length⟩) ∧
    (args.length ≤ 6 →
      ((∀ i a, args[i]? = some a → Fits i a) →
        (4 ≤ args.length → ∃ c, parse input = .ok c ∧ Denotes c args) ∧
        (args.length < 4 →
          parse input = .error ⟨input, .missingArgument (argumentAt args.length)⟩)) ∧
      ∀ i a, args[i]? = some a → (∀ j < i, ∀ b, args[j]? = some b → Fits j b) → ¬ Fits i a →
        parse input = .error ⟨input, misfit i a⟩) := by
  rw [parse_eq_of_callTokens ht ha hp]
  refine ⟨fun hl => ?_, fun hl => ⟨fun hfits => ⟨fun h4 => ?_, fun h4 => ?_⟩, ?_⟩⟩
  · rw [ofArguments_of_length_lt hl]
    rfl
  · obtain ⟨c, hc⟩ := exists_ofArguments_eq_ok hl fun j hj => checkAt_getElem? hfits (by omega)
    exact ⟨c, mapError_eq_ok_iff.2 hc, ofArguments_eq_ok_iff.1 hc⟩
  · have hnone : args[args.length]? = none := List.getElem?_eq_none le_rfl
    rw [ofArguments_eq_error hl (i := args.length) (by simp only [maxArguments]; omega)
      (fun j hj => checkAt_getElem? hfits (.inl hj)) (by rw [hnone, checkAt_none h4])]
    rfl
  · intro i a hi hbefore hmisfit
    obtain ⟨hlt, -⟩ := List.getElem?_eq_some_iff.1 hi
    rw [ofArguments_eq_error hl (hlt.trans_le hl) (fun j hj => ?_)
      (by rw [hi, checkAt_of_not_fits hmisfit])]
    · rfl
    · have hj' := List.getElem?_eq_getElem (hj.trans hlt)
      rw [hj', checkAt_of_fits (hbefore j hj _ hj')]

/-- Neither the comparator that there is not nor the value that is missing hides the word. -/
theorem parse_eq_by_arguments_unquoted :
    tokenize "SingleColumnValueFilter('a', it, <>)" =
        .ok [⟨.word filterName, 0⟩, ⟨.opening, 23⟩, ⟨.quoted "a", 24⟩, ⟨.comma, 27⟩,
          ⟨.word "it", 29⟩, ⟨.comma, 31⟩, ⟨.operator "<>", 33⟩, ⟨.closing, 35⟩] ∧
      parse "SingleColumnValueFilter('a', it, <>)" =
        .error ⟨"SingleColumnValueFilter('a', it, <>)", .unquoted .qualifier (.word "it")⟩ := by
  have ht : tokenize "SingleColumnValueFilter('a', it, <>)" =
      .ok [⟨.word filterName, 0⟩, ⟨.opening, 23⟩, ⟨.quoted "a", 24⟩, ⟨.comma, 27⟩,
        ⟨.word "it", 29⟩, ⟨.comma, 31⟩, ⟨.operator "<>", 33⟩, ⟨.closing, 35⟩] := by
    decide +kernel
  have ha : ∀ a ∈ [.quoted "a", .word "it", .operator "<>"], isArgument a = true := by decide
  have hargs := parse_eq_by_arguments ht ha rfl
  refine ⟨ht, (hargs.2 (by decide)).2 1 (.word "it") rfl (fun j hj b hb => ?_) ?_⟩
  · obtain rfl : j = 0 := by omega
    obtain rfl := Option.some.inj hb
    exact ⟨"a", by decide, rfl⟩
  · rintro ⟨name, -, h⟩
    cases h

end Condition

end ColumnFilter
