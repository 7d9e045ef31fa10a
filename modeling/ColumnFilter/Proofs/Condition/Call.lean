import ColumnFilter.Condition.Parser
import ColumnFilter.Proofs.Outcome
import ColumnFilter.Proofs.Token.Spacing

/-! # Calls

A call is the name of the filter and, between parentheses, arguments of one
token each with commas between them. Reading a call gives its arguments, and
the arguments of a condition are four and up to two flags behind them.
-/

namespace ColumnFilter

namespace Condition

open Token Outcome

def callTokens (args : List Token) : List Token :=
  .word filterName :: .opening :: (args.intersperse .comma ++ [.closing])

variable {ps after : List Placed} {args : List Token}

theorem readArguments_append {a : Token} {as : List Token}
    (h : ∀ b ∈ a :: as, isArgument b = true) {front : List Placed}
    (hf : front.map Placed.token = (a :: as).intersperse .comma ++ [.closing]) :
    readArguments (front ++ after) = .ok (a :: as, after) := by
  obtain ⟨ha, has⟩ := List.forall_mem_cons.1 h
  induction as generalizing a front with
  | nil =>
    obtain ⟨p, front, rfl, rfl, hp⟩ := List.map_eq_cons_iff.1 hf
    obtain ⟨q, front, rfl, hq, hr⟩ := List.map_eq_cons_iff.1 hp
    obtain rfl := List.map_eq_nil_iff.1 hr
    simp [readArguments, ha, hq]
  | cons b as ih =>
    obtain ⟨p, front, rfl, rfl, hp⟩ := List.map_eq_cons_iff.1 hf
    obtain ⟨q, front, rfl, hq, hr⟩ := List.map_eq_cons_iff.1 hp
    have hr := ih has hr (List.forall_mem_cons.1 has).1 (List.forall_mem_cons.1 has).2
    simp [readArguments, ha, hq, hr, Except.map]

theorem append_of_readArguments (h : readArguments ps = .ok (args, after)) :
    (args ≠ [] ∧ ∀ a ∈ args, isArgument a = true) ∧
      ∃ front, ps = front ++ after ∧
        front.map Placed.token = args.intersperse .comma ++ [.closing] := by
  fun_induction readArguments ps generalizing args after with
  | case1 => cases h
  | case2 => cases h
  | case3 => cases h
  | case4 p q rest hp hq ih =>
    obtain ⟨⟨as, r⟩, hr, he⟩ := map_eq_ok_iff.1 h
    obtain ⟨rfl, rfl⟩ := Prod.mk.inj he
    obtain ⟨⟨hne, has⟩, front, rfl, hf⟩ := ih hr
    obtain ⟨b, bs, rfl⟩ := List.exists_cons_of_ne_nil hne
    exact ⟨⟨by simp, List.forall_mem_cons.2 ⟨hp, has⟩⟩, p :: q :: front, rfl, by simp [hq, hf]⟩
  | case5 p q rest hp hq =>
    obtain ⟨rfl, rfl⟩ := Prod.mk.inj (Except.ok.inj h)
    exact ⟨⟨by simp, by simp [hp]⟩, [p, q], rfl, by simp [hq]⟩
  | case6 => cases h
  | case7 => cases h

theorem finish_eq_ok_iff {args' : List Token} :
    readCall.finish args ps = .ok args' ↔ ps = [] ∧ args = args' := by
  cases ps <;> simp [readCall.finish]

theorem callTokens_of_readCall (h : readCall ps = .ok args) :
    (∀ a ∈ args, isArgument a = true) ∧ ps.map Placed.token = callTokens args := by
  fun_cases readCall ps with
  | case1 => cases h
  | case2 name _ _ hn => simp [readCall, hn] at h
  | case3 name _ hn => simp [readCall, hn] at h
  | case4 name _ hn =>
    rw [ne_eq, not_not] at hn
    subst hn
    obtain ⟨rfl, rfl⟩ := finish_eq_ok_iff.1 h
    exact ⟨by simp, rfl⟩
  | case5 name _ hn _ rest hc =>
    rw [ne_eq, not_not] at hn
    subst hn
    simp only [readCall, ne_eq, not_true, if_false] at h
    obtain ⟨⟨as, r⟩, hr, hf⟩ := bind_eq_ok_iff.1 h
    obtain ⟨rfl, rfl⟩ := finish_eq_ok_iff.1 hf
    obtain ⟨⟨_, has⟩, front, rfl, hm⟩ := append_of_readArguments hr
    exact ⟨has, by simp [hm, callTokens]⟩
  | case6 name _ hn => simp [readCall, hn] at h
  | case7 => simp [readCall] at h

theorem readCall_of_callTokens (ha : ∀ a ∈ args, isArgument a = true)
    (h : ps.map Placed.token = callTokens args) : readCall ps = .ok args := by
  obtain ⟨⟨_, m⟩, qs, rfl, rfl, hq⟩ := List.map_eq_cons_iff.1 h
  obtain ⟨⟨_, n⟩, rs, rfl, rfl, hr⟩ := List.map_eq_cons_iff.1 hq
  cases args with
  | nil =>
    obtain ⟨⟨_, k⟩, ts, rfl, rfl, ht⟩ := List.map_eq_cons_iff.1 hr
    obtain rfl := List.map_eq_nil_iff.1 ht
    simp [readCall, readCall.finish]
  | cons a as =>
    have hs : readArguments rs = .ok (a :: as, []) := by
      rw [← List.append_nil rs]
      exact readArguments_append ha hr
    have hc : ∀ offset rest, rs ≠ ⟨.closing, offset⟩ :: rest := by
      rintro offset rest rfl
      cases rest <;> simp [readArguments, isArgument] at hs
    simp only [readCall, ne_eq, not_true, if_false]
    exact bind_eq_ok_iff.2 ⟨_, hs, finish_eq_ok_iff.2 ⟨rfl, rfl⟩⟩

/-- The arguments of a call are read from the tokens of just that call. -/
theorem readCall_eq_ok_iff : readCall ps = .ok args ↔
    (∀ a ∈ args, isArgument a = true) ∧ ps.map Placed.token = callTokens args :=
  ⟨callTokens_of_readCall, fun ⟨ha, h⟩ => readCall_of_callTokens ha h⟩

theorem separate_arguments : ∀ {args : List Token}, (∀ a ∈ args, a.WellFormed) →
    Separate (args.intersperse .comma ++ [.closing])
  | [], _ => .cons trivial (by simp) separate_nil
  | [a], h =>
    .cons (h a (by simp)) (by cases a <;> simp [merges]) (.cons trivial (by simp) separate_nil)
  | a :: b :: as, h => by
    obtain ⟨ha, has⟩ := List.forall_mem_cons.1 h
    exact .cons ha (by cases a <;> simp [merges])
      (.cons trivial (fun _ _ => rfl) (separate_arguments has))

theorem wellFormed_filterName : (word filterName).WellFormed :=
  ⟨by decide, List.all_eq_true.1 (by decide)⟩

theorem separate_callTokens (h : ∀ a ∈ args, a.WellFormed) : Separate (callTokens args) :=
  .cons wellFormed_filterName (by simp [merges])
    (.cons trivial (fun _ _ => rfl) (separate_arguments h))

theorem not_blanks_of_readCall {input : String} (h : tokenize input = .ok ps)
    (hc : readCall ps = .ok args) : input.toList.all Text.isBlank = false := by
  rw [Bool.eq_false_iff, ne_eq, Text.all_isBlank_iff]
  intro hb
  obtain rfl : ps = [] :=
    Except.ok.inj (h.symm.trans (readAll_eq_ok_iff.2 (.done hb)))
  cases hc

theorem read_of_spaced {input : String} (ha : ∀ a ∈ args, isArgument a = true)
    (hw : ∀ a ∈ args, a.WellFormed) (h : Spaced (callTokens args) input.toList) :
    read input = ofArguments args := by
  obtain ⟨ps, ht, hp⟩ := (exists_tokenize_iff (separate_callTokens hw)).2 h
  have hc := readCall_of_callTokens ha hp
  rw [Condition.read, not_blanks_of_readCall ht hc, ht]
  simp [Except.mapError, hc, bind, Except.bind]

theorem exists_spaced_of_read {input : String} {c : Condition} (h : read input = .ok c) :
    ∃ args, ofArguments args = .ok c ∧ Spaced (callTokens args) input.toList := by
  unfold Condition.read at h
  split at h
  · cases h
  obtain ⟨ps, ht, h⟩ := bind_eq_ok_iff.1 h
  obtain ⟨args, hc, h⟩ := bind_eq_ok_iff.1 h
  have hs := (readAll_eq_ok_iff.1 (mapError_eq_ok_iff.1 ht)).spaced
  rw [(readCall_eq_ok_iff.1 hc).2] at hs
  exact ⟨args, h, hs⟩

variable {found : Option Token} {argument : Argument}

theorem readName_eq_ok_iff {name : String} :
    readName argument found = .ok name ↔ found = some (.quoted name) ∧ name ≠ "" := by
  fun_cases readName argument found with
  | case1 => simp
  | case2 => simp
  | case4 t h => simpa using fun ht => absurd ht (h name)
  | case3 text ht =>
    constructor
    · rintro ⟨⟩
      exact ⟨rfl, ht⟩
    · rintro ⟨⟨⟩, -⟩
      rfl

theorem ofSymbol?_eq_some_iff {text : String} {op : Comparator} :
    Comparator.ofSymbol? text = some op ↔ text = op.symbol := by
  constructor
  · intro h
    have := List.find?_some h
    exact (eq_of_beq this).symm
  · rintro rfl
    exact Comparator.ofSymbol?_symbol op

theorem readComparator_eq_ok_iff {op : Comparator} :
    readComparator found = .ok op ↔ found = some (.operator op.symbol) := by
  fun_cases readComparator found with
  | case1 => simp
  | case2 text op' h =>
    rw [Except.ok.injEq, Option.some.injEq, operator.injEq, ← ofSymbol?_eq_some_iff, h,
      Option.some.injEq]
  | case3 text h => simp [← ofSymbol?_eq_some_iff, h]
  | case4 t h => simpa using h _

theorem readValue_eq_ok_iff {value : String} :
    readValue found = .ok value ↔ ∃ l, found = some (.quoted l) ∧ dropTag l = value := by
  fun_cases readValue found with
  | case1 => simp
  | case2 l => simp
  | case3 t h => simpa using fun l hl => absurd hl (h l)

theorem readFlag_eq_ok_iff {default b : Bool} : readFlag default found = .ok b ↔
    (found = none ∧ default = b) ∨ ∃ w, found = some (.word w) ∧ flag? w = some b := by
  fun_cases readFlag default found with
  | case1 => simp
  | case2 w b' h => simp [h]
  | case3 w h => simp [h]
  | case4 t h => simpa using fun w hw => absurd hw (h w)

/-- The flags that stand behind the other arguments, and their values, given or by default. -/
inductive Flags : List Token → Bool → Bool → Prop
  | none : Flags [] false true
  | one {w b} : flag? w = some b → Flags [.word w] b true
  | two {w w' b b'} : flag? w = some b → flag? w' = some b' → Flags [.word w, .word w'] b b'

inductive Denotes (c : Condition) : List Token → Prop
  | intro {literal flags} : c.family ≠ "" → c.qualifier ≠ "" → dropTag literal = c.value →
      Flags flags c.filterIfMissing c.latestVersionOnly →
      Denotes c (.quoted c.family :: .quoted c.qualifier :: .operator c.comparator.symbol ::
        .quoted literal :: flags)

theorem exists_cons_of_getElem? {a : Token} (h : args[0]? = some a) : ∃ as, args = a :: as := by
  cases args with
  | nil => cases h
  | cons b as => exact ⟨as, by rw [Option.some.inj h]⟩

theorem flags_iff {flags : List Token} {b b' : Bool} : Flags flags b b' ↔
    flags.length ≤ 2 ∧ readFlag false flags[0]? = .ok b ∧ readFlag true flags[1]? = .ok b' := by
  rw [readFlag_eq_ok_iff, readFlag_eq_ok_iff]
  constructor
  · rintro (_ | hw | ⟨hw, hw'⟩)
    · simp
    · simp [hw]
    · simp [hw, hw']
  · rintro ⟨hl, h, h'⟩
    match flags with
    | [] =>
      obtain ⟨rfl, rfl⟩ : b = false ∧ b' = true := by simpa using And.intro h h'
      exact .none
    | [t] =>
      obtain ⟨w, rfl, hw⟩ : ∃ w, t = .word w ∧ flag? w = some b := by simpa using h
      obtain rfl : true = b' := by simpa using h'
      exact .one hw
    | [t, t'] =>
      obtain ⟨w, rfl, hw⟩ : ∃ w, t = .word w ∧ flag? w = some b := by simpa using h
      obtain ⟨w', rfl, hw'⟩ : ∃ w, t' = .word w ∧ flag? w = some b' := by simpa using h'
      exact .two hw hw'
    | _ :: _ :: _ :: _ => simp at hl

theorem denotes_of_ofArguments {c : Condition} (h : ofArguments args = .ok c) :
    Denotes c args := by
  unfold ofArguments at h
  split at h
  · cases h
  next hl =>
  simp only [bind_eq_ok_iff, readName_eq_ok_iff, readComparator_eq_ok_iff,
    readValue_eq_ok_iff] at h
  obtain ⟨_, ⟨h₀, hf⟩, _, ⟨h₁, hq⟩, _, h₂, _, ⟨l, h₃, hv⟩, _, h₄, _, h₅, ⟨⟩⟩ := h
  obtain ⟨as, rfl⟩ := exists_cons_of_getElem? h₀
  obtain ⟨as, rfl⟩ := exists_cons_of_getElem? h₁
  obtain ⟨as, rfl⟩ := exists_cons_of_getElem? h₂
  obtain ⟨as, rfl⟩ := exists_cons_of_getElem? h₃
  refine .intro hf hq hv (flags_iff.2 ⟨?_, h₄, h₅⟩)
  simp only [List.length_cons, maxArguments] at hl
  omega

theorem ofArguments_of_denotes {c : Condition} (h : Denotes c args) :
    ofArguments args = .ok c := by
  obtain ⟨hf, hq, hv, hs⟩ := h
  obtain ⟨hl, h₄, h₅⟩ := flags_iff.1 hs
  unfold ofArguments
  rw [if_neg (by simp only [List.length_cons, maxArguments]; omega)]
  refine bind_eq_ok_iff.2 ⟨_, readName_eq_ok_iff.2 ⟨rfl, hf⟩, ?_⟩
  refine bind_eq_ok_iff.2 ⟨_, readName_eq_ok_iff.2 ⟨rfl, hq⟩, ?_⟩
  refine bind_eq_ok_iff.2 ⟨_, readComparator_eq_ok_iff.2 rfl, ?_⟩
  refine bind_eq_ok_iff.2 ⟨_, readValue_eq_ok_iff.2 ⟨_, rfl, hv⟩, ?_⟩
  exact bind_eq_ok_iff.2 ⟨_, h₄, bind_eq_ok_iff.2 ⟨_, h₅, rfl⟩⟩

theorem ofArguments_eq_ok_iff {c : Condition} : ofArguments args = .ok c ↔ Denotes c args :=
  ⟨denotes_of_ofArguments, ofArguments_of_denotes⟩

end Condition

end ColumnFilter
