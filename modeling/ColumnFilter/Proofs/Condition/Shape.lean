import ColumnFilter.Proofs.Condition.Call
import Mathlib.Order.Bounds.Defs

/-! # Shapes of expressions

The tokens of an expression have the shape of a call or they do not, which is
settled before any argument is interpreted. Tokens of another shape are rejected
where their longest beginning ends with which a call could begin as well.
-/

namespace ColumnFilter

/-- Whether an error is about a text that is no call at all, not about the arguments of a call. -/
def SyntaxError.isOfShape : SyntaxError → Bool
  | blank | lexical _ | unknownFilter _ | unexpectedToken .. | unexpectedEnd => true
  | invalidComparator _ | invalidFlag _ | unquoted .. | emptyArgument _ | missingArgument _
  | tooManyArguments _ => false

namespace Condition

open Token Outcome

/-- The tokens of some call. -/
def IsCall (ts : List Token) : Prop :=
  ∃ args, (∀ a ∈ args, isArgument a = true) ∧ ts = callTokens args

/-- The tokens with which some call begins. -/
def Viable (ts : List Token) : Prop := ∃ us, IsCall us ∧ ts <+: us

/-- The tokens with which some call goes on behind its parenthesis, if it has arguments. -/
def ViableArguments (ts : List Token) : Prop :=
  ∃ args, args ≠ [] ∧ (∀ a ∈ args, isArgument a = true) ∧
    ts <+: args.intersperse .comma ++ [.closing]

/-- A beginning of some tokens that has a property which it loses with the next token. -/
structure Longest (V : List Token → Prop) (front rest : List Token) : Prop where
  viable : V front
  stops : ∀ t ∈ rest.head?, ¬ V (front ++ [t])

/-- The error of tokens that a call does not go on with. -/
def stop : List Placed → SyntaxError
  | [] => .unexpectedEnd
  | p :: _ => .unexpectedToken p.token p.offset

variable {ps : List Placed} {front rest ts args : List Token} {t u : Token} {e : SyntaxError}

theorem Longest.isGreatest {V : List Token → Prop} (hV : ∀ {ts us}, ts <+: us → V us → V ts)
    (h : Longest V front rest) :
    IsGreatest {k | k ≤ (front ++ rest).length ∧ V ((front ++ rest).take k)} front.length := by
  refine ⟨⟨by simp, by simpa using h.viable⟩, fun k ⟨hk, hv⟩ => ?_⟩
  by_contra hlt
  cases rest with
  | nil => simp at hk; omega
  | cons t rest =>
    -- A longer beginning would hold the token behind this one.
    have hp : front ++ [t] <+: front ++ t :: rest := ⟨rest, by simp⟩
    refine h.stops t rfl (hV (List.prefix_of_prefix_length_le hp (List.take_prefix _ _) ?_) hv)
    rw [List.length_take_of_le hk, List.length_append, List.length_singleton]
    omega

theorem Viable.of_prefix (h : ts <+: rest) (hr : Viable rest) : Viable ts := by
  obtain ⟨us, hus, hp⟩ := hr
  exact ⟨us, hus, h.trans hp⟩

section Arguments

theorem viableArguments_nil : ViableArguments [] :=
  ⟨[.word ""], by simp, by simp [isArgument], List.nil_prefix⟩

theorem viableArguments_singleton_iff : ViableArguments [t] ↔ isArgument t = true := by
  constructor
  · rintro ⟨_ | ⟨a, as⟩, hne, ha, hp⟩
    · exact absurd rfl hne
    · obtain rfl : t = a := by cases as <;> simpa using hp
      exact ha _ List.mem_cons_self
  · intro h
    exact ⟨[t], by simp, by simpa using h, by simp⟩

theorem viableArguments_cons_cons_iff :
    ViableArguments (t :: u :: ts) ↔ isArgument t = true ∧
      (u = .closing ∧ ts = [] ∨ u = .comma ∧ ViableArguments ts) := by
  constructor
  · rintro ⟨_ | ⟨a, _ | ⟨b, as⟩⟩, hne, ha, hp⟩
    · exact absurd rfl hne
    · obtain ⟨rfl, rfl, rfl⟩ : t = a ∧ u = .closing ∧ ts = [] := by simpa using hp
      exact ⟨ha _ List.mem_cons_self, .inl ⟨rfl, rfl⟩⟩
    · obtain ⟨rfl, rfl, hts⟩ :
          t = a ∧ u = .comma ∧ ts <+: (b :: as).intersperse .comma ++ [.closing] := by
        simpa using hp
      obtain ⟨ha, has⟩ := List.forall_mem_cons.1 ha
      exact ⟨ha, .inr ⟨rfl, b :: as, by simp, has, hts⟩⟩
  · rintro ⟨ht, ⟨rfl, rfl⟩ | ⟨rfl, _ | ⟨b, as⟩, hne, ha, hp⟩⟩
    · exact ⟨[t], by simp, by simpa using ht, by simp⟩
    · exact absurd rfl hne
    · exact ⟨t :: b :: as, by simp, List.forall_mem_cons.2 ⟨ht, ha⟩, by simpa using hp⟩

/-- A call ends with its closing parenthesis. -/
theorem not_viableArguments_append (hne : args ≠ []) :
    ¬ ViableArguments (args.intersperse .comma ++ [.closing] ++ [t]) := by
  induction args with
  | nil => exact absurd rfl hne
  | cons a as ih =>
    cases as with
    | nil =>
      intro h
      obtain ⟨-, ⟨-, ht⟩ | ⟨hc, -⟩⟩ := viableArguments_cons_cons_iff.1 h
      · cases ht
      · cases hc
    | cons b as =>
      intro h
      obtain ⟨-, ⟨hc, -⟩ | ⟨-, h⟩⟩ := viableArguments_cons_cons_iff.1 h
      · cases hc
      · exact ih (by simp) h

theorem longest_of_readArguments (h : readArguments ps = .error e) :
    ∃ front rest, ps = front ++ rest ∧ e = stop rest ∧
      Longest ViableArguments (front.map Placed.token) (rest.map Placed.token) := by
  fun_induction readArguments ps with
  | case1 =>
    cases h
    exact ⟨[], [], rfl, rfl, viableArguments_nil, by simp⟩
  | case2 p hp =>
    cases h
    exact ⟨[p], [], rfl, rfl, viableArguments_singleton_iff.2 hp, by simp⟩
  | case3 p hp =>
    cases h
    refine ⟨[], [p], rfl, rfl, viableArguments_nil, ?_⟩
    rintro t ⟨⟩
    exact mt viableArguments_singleton_iff.1 hp
  | case4 p q after hp hq ih =>
    obtain ⟨front, rest, rfl, rfl, hl⟩ := ih (map_eq_error_iff.1 h)
    refine ⟨p :: q :: front, rest, rfl, rfl, ?_, fun t ht hv => ?_⟩
    · exact viableArguments_cons_cons_iff.2 ⟨hp, .inr ⟨hq, hl.viable⟩⟩
    · obtain ⟨-, ⟨hc, -⟩ | ⟨-, hv⟩⟩ := viableArguments_cons_cons_iff.1 hv
      · cases hq.symm.trans hc
      · exact hl.stops t ht hv
  | case5 => cases h
  | case6 p q after hp hcomma hclosing =>
    cases h
    refine ⟨[p], q :: after, rfl, rfl, viableArguments_singleton_iff.2 hp, ?_⟩
    rintro t ⟨⟩ hv
    obtain ⟨-, ⟨hc, -⟩ | ⟨hc, -⟩⟩ := viableArguments_cons_cons_iff.1 hv
    · exact hclosing hc
    · exact hcomma hc
  | case7 p q after hp =>
    cases h
    refine ⟨[], p :: q :: after, rfl, rfl, viableArguments_nil, ?_⟩
    rintro t ⟨⟩
    exact mt viableArguments_singleton_iff.1 hp

end Arguments

section Calls

theorem viable_nil : Viable [] := ⟨_, ⟨[], by simp, rfl⟩, List.nil_prefix⟩

theorem viable_singleton_iff : Viable [t] ↔ t = .word filterName := by
  constructor
  · rintro ⟨_, ⟨args, -, rfl⟩, hp⟩
    exact (List.cons_prefix_cons.1 hp).1
  · rintro rfl
    exact ⟨_, ⟨[], by simp, rfl⟩, by simp [callTokens]⟩

theorem viable_cons_cons_iff : Viable (t :: u :: ts) ↔
    t = .word filterName ∧ u = .opening ∧ (ts = [.closing] ∨ ViableArguments ts) := by
  constructor
  · rintro ⟨_, ⟨args, ha, rfl⟩, hp⟩
    obtain ⟨rfl, rfl, hts⟩ :
        t = .word filterName ∧ u = .opening ∧ ts <+: args.intersperse .comma ++ [.closing] := by
      simpa [callTokens] using hp
    refine ⟨rfl, rfl, ?_⟩
    cases args with
    | nil =>
      rcases List.prefix_cons_iff.1 hts with rfl | ⟨_, rfl, hnil⟩
      · exact .inr viableArguments_nil
      · exact .inl (by rw [List.prefix_nil.1 hnil])
    | cons a as => exact .inr ⟨a :: as, by simp, ha, hts⟩
  · rintro ⟨rfl, rfl, rfl | ⟨args, -, ha, hp⟩⟩
    · exact ⟨_, ⟨[], by simp, rfl⟩, List.prefix_refl _⟩
    · exact ⟨_, ⟨args, ha, rfl⟩, by simpa [callTokens] using hp⟩

theorem finish_eq_error_iff : readCall.finish args ps = .error e ↔
    ∃ p after, ps = p :: after ∧ e = .unexpectedToken p.token p.offset := by
  cases ps <;> simp [readCall.finish, eq_comm]

theorem ne_singleton_closing {front rest : List Placed}
    (h : ∀ offset after, front ++ rest = ⟨.closing, offset⟩ :: after → False)
    (ht : t ∈ (rest.map Placed.token).head?) : front.map Placed.token ++ [t] ≠ [.closing] := by
  intro hc
  cases front with
  | nil =>
    cases rest with
    | nil => cases ht
    | cons p rest =>
      obtain ⟨-, rfl⟩ : p.token = t ∧ t = .closing := ⟨by simpa using ht, by simpa using hc⟩
      exact h p.offset rest (by rw [← Option.some.inj ht, List.nil_append])
  | cons p front => simp at hc

theorem longest_of_readCall (h : readCall ps = .error e)
    (hn : ∀ name, (ps.map Placed.token).head? = some (.word name) → name = filterName) :
    ∃ front rest, ps = front ++ rest ∧ e = stop rest ∧
      Longest Viable (front.map Placed.token) (rest.map Placed.token) := by
  fun_cases readCall ps with
  | case1 =>
    cases h
    exact ⟨[], [], rfl, rfl, viable_nil, by simp⟩
  | case2 name _ _ hne => exact absurd (hn name rfl) hne
  | case3 name offset =>
    obtain rfl := hn name rfl
    cases h
    exact ⟨[⟨.word filterName, offset⟩], [], rfl, rfl, viable_singleton_iff.2 rfl, by simp⟩
  | case4 name _ _ _ _ after =>
    obtain rfl := hn name rfl
    simp only [readCall, ne_eq, not_true, if_false] at h
    obtain ⟨p, after, rfl, rfl⟩ := finish_eq_error_iff.1 h
    refine ⟨[_, _, _], p :: after, rfl, rfl, viable_cons_cons_iff.2 ⟨rfl, rfl, .inl rfl⟩, ?_⟩
    rintro t ⟨⟩ hv
    obtain ⟨-, -, hc | hv⟩ := viable_cons_cons_iff.1 hv
    · cases hc
    · cases (viableArguments_cons_cons_iff.1 hv).1
  | case5 name _ _ _ after hclosing =>
    obtain rfl := hn name rfl
    simp only [readCall, ne_eq, not_true, if_false] at h
    rcases bind_eq_error_iff.1 h with h | ⟨⟨args, rest⟩, hr, hf⟩
    · obtain ⟨front, rest, rfl, rfl, hl⟩ := longest_of_readArguments h
      have hviable := viable_cons_cons_iff.2 ⟨rfl, rfl, .inr hl.viable⟩
      refine ⟨_ :: _ :: front, rest, rfl, rfl, hviable, ?_⟩
      intro t ht hv
      obtain ⟨-, -, hc | hv⟩ := viable_cons_cons_iff.1 hv
      · exact ne_singleton_closing hclosing ht hc
      · exact hl.stops t ht hv
    · obtain ⟨⟨hne, ha⟩, front, rfl, hm⟩ := append_of_readArguments hr
      obtain ⟨p, rest, rfl, rfl⟩ := finish_eq_error_iff.1 hf
      refine ⟨_ :: _ :: front, p :: rest, rfl, rfl, viable_cons_cons_iff.2 ⟨rfl, rfl, .inr ?_⟩, ?_⟩
      · exact ⟨args, hne, ha, hm ▸ List.prefix_refl _⟩
      rintro t ⟨⟩ hv
      obtain ⟨-, -, hc | hv⟩ := viable_cons_cons_iff.1 hv
      · exact ne_singleton_closing hclosing rfl hc
      · rw [hm] at hv
        exact not_viableArguments_append hne hv
  | case6 name _ _ p after _ hp =>
    obtain rfl := hn name rfl
    obtain rfl : e = .unexpectedToken p.token p.offset := by
      simpa [readCall] using h.symm
    refine ⟨[_], p :: after, rfl, rfl, viable_singleton_iff.2 rfl, ?_⟩
    rintro t ⟨⟩ hv
    obtain ⟨-, ht, -⟩ := viable_cons_cons_iff.1 hv
    exact hp p.offset (by rw [← ht])
  | case7 p after hp =>
    obtain rfl : e = .unexpectedToken p.token p.offset := by
      simpa [readCall] using h.symm
    refine ⟨[], p :: after, rfl, rfl, viable_nil, ?_⟩
    rintro t ⟨⟩ hv
    exact hp filterName p.offset (by rw [← viable_singleton_iff.1 hv])

theorem readCall_of_ne {name : String} (h : (ps.map Placed.token).head? = some (.word name))
    (hn : name ≠ filterName) : readCall ps = .error (.unknownFilter name) := by
  cases ps with
  | nil => cases h
  | cons p ps =>
    obtain ⟨t, offset⟩ := p
    obtain rfl : t = .word name := by simpa using h
    simp [readCall, hn]

end Calls

section Errors

variable {found : Option Token} {argument : Argument}

theorem isOfShape_of_readName : ∀ e, readName argument found = .error e → e.isOfShape = false := by
  fun_cases readName argument found <;> rintro _ ⟨⟩ <;> rfl

theorem isOfShape_of_readComparator :
    ∀ e, readComparator found = .error e → e.isOfShape = false := by
  fun_cases readComparator found <;> rintro _ ⟨⟩ <;> rfl

theorem isOfShape_of_readValue : ∀ e, readValue found = .error e → e.isOfShape = false := by
  fun_cases readValue found <;> rintro _ ⟨⟩ <;> rfl

theorem isOfShape_of_readFlag {default : Bool} :
    ∀ e, readFlag default found = .error e → e.isOfShape = false := by
  fun_cases readFlag default found <;> rintro _ ⟨⟩ <;> rfl

theorem isOfShape_of_ofArguments : ∀ e, ofArguments args = .error e → e.isOfShape = false := by
  unfold ofArguments
  split
  · rintro _ ⟨⟩
    rfl
  refine forall_error_bind isOfShape_of_readName fun _ => ?_
  refine forall_error_bind isOfShape_of_readName fun _ => ?_
  refine forall_error_bind isOfShape_of_readComparator fun _ => ?_
  refine forall_error_bind isOfShape_of_readValue fun _ => ?_
  refine forall_error_bind isOfShape_of_readFlag fun _ => ?_
  refine forall_error_bind isOfShape_of_readFlag fun _ => ?_
  rintro _ ⟨⟩

end Errors

variable {input : String}

theorem read_of_blanks (hb : Text.Blanks input.toList) : Condition.read input = .error .blank := by
  rw [Condition.read, if_pos (Text.all_isBlank_iff.2 hb)]

theorem read_of_lexicalError (hb : ¬ Text.Blanks input.toList) {e : LexicalError}
    (h : tokenize input = .error e) : Condition.read input = .error (.lexical e) := by
  rw [Condition.read, if_neg (mt Text.all_isBlank_iff.1 hb), h]
  rfl

theorem read_of_tokenize (hb : ¬ Text.Blanks input.toList) (h : tokenize input = .ok ps) :
    Condition.read input = readCall ps >>= ofArguments := by
  rw [Condition.read, if_neg (mt Text.all_isBlank_iff.1 hb), h]
  rfl

/-- A text that is no call is rejected for the first thing that is wrong with it: that it is blank,
a lexical error, the name of another filter, or the token, or the end, with which its longest
beginning ends that a call has too. What is said of a call is said of its arguments. -/
theorem parse_eq_by_shape (input : String) :
    (Text.Blanks input.toList → parse input = .error ⟨input, .blank⟩) ∧
    (¬ Text.Blanks input.toList →
      (∀ e, tokenize input = .error e → parse input = .error ⟨input, .lexical e⟩) ∧
      ∀ ps, tokenize input = .ok ps →
        (∀ name, (ps.map Placed.token).head? = some (.word name) → name ≠ filterName →
          parse input = .error ⟨input, .unknownFilter name⟩) ∧
        ((∀ name, (ps.map Placed.token).head? = some (.word name) → name = filterName) →
          ¬ IsCall (ps.map Placed.token) →
          ∃ k, IsGreatest {k | k ≤ ps.length ∧ Viable ((ps.map Placed.token).take k)} k ∧
            parse input = .error ⟨input, stop (ps.drop k)⟩) ∧
        ∀ args, (∀ a ∈ args, isArgument a = true) → ps.map Placed.token = callTokens args →
          parse input = (ofArguments args).mapError (⟨input, ·⟩) ∧
            ∀ r, parse input = .error r → r.cause.isOfShape = false) := by
  refine ⟨fun hb => ?_, fun hb => ⟨fun e he => ?_, fun ps hps => ⟨fun name hh hn => ?_, ?_, ?_⟩⟩⟩
  · rw [parse, Condition.read, if_pos (Text.all_isBlank_iff.2 hb)]
    rfl
  · rw [parse, Condition.read, if_neg (mt Text.all_isBlank_iff.1 hb), he]
    rfl
  · rw [parse, read_of_tokenize hb hps, readCall_of_ne hh hn]
    rfl
  · intro hn hc
    cases hr : readCall ps with
    | ok args => exact absurd ⟨args, readCall_eq_ok_iff.1 hr⟩ hc
    | error e =>
      obtain ⟨front, rest, rfl, rfl, hl⟩ := longest_of_readCall hr hn
      refine ⟨front.length, ?_, ?_⟩
      · simpa using hl.isGreatest Viable.of_prefix
      · rw [parse, read_of_tokenize hb hps, hr, List.drop_left]
        rfl
  · intro args ha hps'
    have hp : parse input = (ofArguments args).mapError (⟨input, ·⟩) := by
      rw [parse, read_of_tokenize hb hps, readCall_of_callTokens ha hps']
      rfl
    refine ⟨hp, fun r hr => ?_⟩
    obtain ⟨e, he, rfl⟩ := mapError_eq_error_iff.1 (hp.symm.trans hr)
    exact isOfShape_of_ofArguments e he

end Condition

end ColumnFilter
