import ColumnFilter.Proofs.Condition.Call
import ColumnFilter.Proofs.Text.Casing

/-! # The grammar of expressions

The texts that are read as a condition, character by character: a call of the
filter with blanks around each of its parts. Reading accepts exactly these, so
no text is an expression of two conditions.
-/

namespace ColumnFilter

namespace Condition

open Text (Blanks Quoted.write Quoted.mark)
open Token (Spaced Separate)

/-- A text with blanks on both sides of it. -/
def Padded (s t : List Char) : Prop := ∃ u v, Blanks u ∧ Blanks v ∧ t = u ++ s ++ v

/-- The part of a literal that counts: what follows its first colon, or all of it. -/
def IsValueOf (value literal : List Char) : Prop :=
  (∃ tag, ':' ∉ tag ∧ literal = tag ++ ':' :: value) ∨ ':' ∉ literal ∧ value = literal

def SpellsFlag (word : List Char) (b : Bool) : Prop :=
  List.Forall₂ (fun c d => c = d ∨ c = d.toUpper) word (toString b).toList

/-- The flags at the end of the arguments, which are false and true where they are left out. -/
inductive SpellsFlags : Bool → Bool → List Char → Prop
  | none : SpellsFlags false true []
  | one {b w s} : SpellsFlag w b → Padded w s → SpellsFlags b true (',' :: s)
  | two {b b' w w' s s'} : SpellsFlag w b → Padded w s → SpellsFlag w' b' → Padded w' s' →
      SpellsFlags b b' (',' :: (s ++ ',' :: s'))

/-- The expressions of a condition. -/
inductive Spells (c : Condition) : List Char → Prop
  | call {name family qualifier operator literal value flags after : List Char} :
      Padded filterName.toList name →
      Padded (Quoted.write c.family.toList) family → c.family ≠ "" →
      Padded (Quoted.write c.qualifier.toList) qualifier → c.qualifier ≠ "" →
      Padded c.comparator.symbol.toList operator →
      Padded (Quoted.write literal) value → IsValueOf c.value.toList literal →
      SpellsFlags c.filterIfMissing c.latestVersionOnly flags → Blanks after →
      Spells c (name ++ '(' :: (family ++ ',' :: (qualifier ++ ',' :: (operator ++ ',' ::
        (value ++ (flags ++ ')' :: after))))))

theorem dropTag_of_notMem {literal : String} (h : ':' ∉ literal.toList) :
    dropTag literal = literal := by
  have hd : literal.toList.dropWhile (· ≠ ':') = [] :=
    List.dropWhile_eq_nil_iff.2 fun c hc => by simpa using fun he : c = ':' => h (he ▸ hc)
  rw [dropTag, hd]

theorem dropTag_of_eq_append {literal : String} {tag value : List Char} (h : ':' ∉ tag)
    (hl : literal.toList = tag ++ ':' :: value) : dropTag literal = String.ofList value := by
  have hd : literal.toList.dropWhile (· ≠ ':') = ':' :: value := by
    rw [hl]
    refine Text.dropWhile_append_of_ends (fun c hc => ?_) (by simp)
    simpa using fun he : c = ':' => h (he ▸ hc)
  rw [dropTag, hd]

theorem dropTag_eq_iff {literal value : String} :
    dropTag literal = value ↔ IsValueOf value.toList literal.toList := by
  constructor
  · rintro rfl
    by_cases h : ':' ∈ literal.toList
    · obtain ⟨tag, value, hl, ht⟩ := List.eq_append_cons_of_mem h
      rw [dropTag_of_eq_append ht hl, String.toList_ofList]
      exact .inl ⟨tag, ht, hl⟩
    · rw [dropTag_of_notMem h]
      exact .inr ⟨h, rfl⟩
  · rintro (⟨tag, ht, hl⟩ | ⟨h, hl⟩)
    · rw [dropTag_of_eq_append ht hl, String.ofList_toList]
    · rw [dropTag_of_notMem h, String.toList_inj.1 hl]

theorem isSmall_of_mem_flag (b : Bool) : ∀ d ∈ (toString b).toList, Text.IsSmall d := by
  have h : ((toString b).toList.all fun d => decide (Text.IsSmall d)) = true := by
    cases b <;> decide
  simpa using h

theorem flag?_eq_some_iff_map {word : String} {b : Bool} :
    flag? word = some b ↔ word.toList.map Char.toLower = (toString b).toList := by
  have ht : toString true = "true" := rfl
  have hf : toString false = "false" := rfl
  simp only [flag?]
  cases b <;> split_ifs <;> simp_all

theorem flag?_eq_some_iff {word : String} {b : Bool} :
    flag? word = some b ↔ SpellsFlag word.toList b :=
  flag?_eq_some_iff_map.trans (Text.map_toLower_eq_iff (isSmall_of_mem_flag b))

theorem wellFormed_of_flag? {word : String} {b : Bool} (h : flag? word = some b) :
    (Token.word word).WellFormed := by
  rw [flag?_eq_some_iff_map] at h
  have hb : ((toString b).toList.all fun d =>
      Token.isWordChar d && Token.isWordChar d.toUpper) = true := by
    cases b <;> decide
  simp only [List.all_eq_true, Bool.and_eq_true] at hb
  constructor
  · intro hn
    rw [hn] at h
    cases b <;> exact absurd h (by decide)
  · intro c hc
    have hd : c.toLower ∈ (toString b).toList := h ▸ List.mem_map_of_mem hc
    rcases (Text.toLower_eq_iff (isSmall_of_mem_flag b _ hd)).1 rfl with he | he
    · exact he ▸ (hb _ hd).1
    · exact he ▸ (hb _ hd).2

variable {c : Condition} {s : List Char}

theorem spaced_cons_cons_iff {t u : Token} {ts : List Token} :
    Spaced (t :: u :: ts) s ↔
      ∃ p rest, Padded t.chars p ∧ s = p ++ (u.chars ++ rest) ∧ Spaced ts rest := by
  constructor
  · rintro ⟨g, _, hg, rfl, g', rest, hg', rfl, hr⟩
    exact ⟨_, rest, ⟨g, g', hg, hg', rfl⟩, by simp, hr⟩
  · rintro ⟨_, rest, ⟨g, g', hg, hg', rfl⟩, rfl, hr⟩
    exact ⟨g, _, hg, by simp, g', rest, hg', rfl, hr⟩

theorem spaced_flags_iff {literal : String} {b b' : Bool} :
    (∃ flags, Flags flags b b' ∧
      Spaced ((.quoted literal :: flags).intersperse .comma ++ [.closing]) s) ↔
    ∃ value flags after, Padded (Quoted.write literal.toList) value ∧ SpellsFlags b b' flags ∧
      Blanks after ∧ s = value ++ (flags ++ ')' :: after) := by
  constructor
  · rintro ⟨_, (_ | hw | ⟨hw, hw'⟩), h⟩
    · obtain ⟨p, after, hp, rfl, ha⟩ := spaced_cons_cons_iff.1 h
      exact ⟨p, [], after, hp, .none, ha, rfl⟩
    · obtain ⟨p, r, hp, rfl, hr⟩ := spaced_cons_cons_iff.1 h
      obtain ⟨q, after, hq, rfl, ha⟩ := spaced_cons_cons_iff.1 hr
      exact ⟨p, _, after, hp, .one (flag?_eq_some_iff.1 hw) hq, ha, rfl⟩
    · obtain ⟨p, r, hp, rfl, hr⟩ := spaced_cons_cons_iff.1 h
      obtain ⟨q, r', hq, rfl, hr'⟩ := spaced_cons_cons_iff.1 hr
      obtain ⟨q', after, hq', rfl, ha⟩ := spaced_cons_cons_iff.1 hr'
      exact ⟨p, _, after, hp, .two (flag?_eq_some_iff.1 hw) hq (flag?_eq_some_iff.1 hw') hq', ha,
        by simp [Token.chars]⟩
  · rintro ⟨value, _, after, hv, hf, ha, rfl⟩
    cases hf with
    | none => exact ⟨[], .none, spaced_cons_cons_iff.2 ⟨value, after, hv, rfl, ha⟩⟩
    | @one _ w _ hw hq =>
      rw [← String.toList_ofList (l := w)] at hw hq
      refine ⟨_, .one (flag?_eq_some_iff.2 hw), ?_⟩
      refine spaced_cons_cons_iff.2 ⟨value, _, hv, rfl, ?_⟩
      exact spaced_cons_cons_iff.2 ⟨_, after, hq, rfl, ha⟩
    | @two _ _ w w' p p' hw hq hw' hq' =>
      rw [← String.toList_ofList (l := w)] at hw hq
      rw [← String.toList_ofList (l := w')] at hw' hq'
      refine ⟨_, .two (flag?_eq_some_iff.2 hw) (flag?_eq_some_iff.2 hw'), ?_⟩
      refine spaced_cons_cons_iff.2 ⟨value, _, hv, rfl, ?_⟩
      refine spaced_cons_cons_iff.2 ⟨p, p' ++ ')' :: after, hq, by simp [Token.chars], ?_⟩
      exact spaced_cons_cons_iff.2 ⟨p', after, hq', rfl, ha⟩

/-- The expressions of a condition consist of the tokens of its calls. -/
theorem spells_iff_spaced :
    Spells c s ↔ ∃ args, Denotes c args ∧ Spaced (callTokens args) s := by
  constructor
  · rintro @⟨name, family, qualifier, operator, literal, value, flags, after, hn, hf, hf₀, hq, hq₀,
      ho, hv, hl, hs, ha⟩
    rw [← String.toList_ofList (l := literal)] at hv hl
    obtain ⟨args, hargs, hsp⟩ := spaced_flags_iff.2 ⟨value, flags, after, hv, hs, ha, rfl⟩
    refine ⟨_, .intro hf₀ hq₀ (dropTag_eq_iff.2 hl) hargs, ?_⟩
    refine spaced_cons_cons_iff.2 ⟨name, _, hn, rfl, ?_⟩
    refine spaced_cons_cons_iff.2 ⟨family, _, hf, rfl, ?_⟩
    refine spaced_cons_cons_iff.2 ⟨qualifier, _, hq, rfl, ?_⟩
    exact spaced_cons_cons_iff.2 ⟨operator, _, ho, rfl, hsp⟩
  · rintro ⟨_, @⟨literal, flags, hf₀, hq₀, hl, hs⟩, h⟩
    obtain ⟨name, s₁, hn, rfl, h₁⟩ := spaced_cons_cons_iff.1 h
    obtain ⟨family, s₂, hf, rfl, h₂⟩ := spaced_cons_cons_iff.1 h₁
    obtain ⟨qualifier, s₃, hq, rfl, h₃⟩ := spaced_cons_cons_iff.1 h₂
    obtain ⟨operator, s₄, ho, rfl, h₄⟩ := spaced_cons_cons_iff.1 h₃
    obtain ⟨value, flags, after, hv, hs, ha, rfl⟩ := spaced_flags_iff.1 ⟨_, hs, h₄⟩
    exact .call hn hf hf₀ hq hq₀ ho hv (dropTag_eq_iff.1 hl) hs ha

theorem Flags.wellFormed {flags : List Token} {b b' : Bool} (h : Flags flags b b') :
    ∀ a ∈ flags, a.WellFormed ∧ isArgument a = true := by
  cases h with
  | none => simp
  | one hw => simpa [isArgument] using wellFormed_of_flag? hw
  | two hw hw' => simpa [isArgument] using ⟨wellFormed_of_flag? hw, wellFormed_of_flag? hw'⟩

theorem wellFormed_symbol (op : Comparator) : (Token.operator op.symbol).WellFormed := by
  cases op <;> exact ⟨by decide, List.all_eq_true.1 (by decide)⟩

theorem Denotes.wellFormed {args : List Token} (h : Denotes c args) :
    ∀ a ∈ args, a.WellFormed ∧ isArgument a = true := by
  obtain ⟨-, -, -, hs⟩ := h
  simp only [List.forall_mem_cons]
  exact ⟨⟨trivial, rfl⟩, ⟨trivial, rfl⟩, ⟨wellFormed_symbol _, rfl⟩, ⟨trivial, rfl⟩, hs.wellFormed⟩

theorem read_eq_ok_iff_spells {input : String} :
    Condition.read input = .ok c ↔ Spells c input.toList := by
  rw [spells_iff_spaced]
  constructor
  · intro h
    obtain ⟨args, ha, hs⟩ := exists_spaced_of_read h
    exact ⟨args, ofArguments_eq_ok_iff.1 ha, hs⟩
  · rintro ⟨args, ha, hs⟩
    rw [read_of_spaced (fun a h => (ha.wellFormed a h).2) (fun a h => (ha.wellFormed a h).1) hs,
      ofArguments_of_denotes ha]

/-- Reading accepts exactly the expressions of a condition, and no text is one of two. -/
theorem parse_eq_ok_iff_spells (input : String) (c : Condition) :
    (parse input = .ok c ↔ Spells c input.toList) ∧
      ∀ c', Spells c input.toList → Spells c' input.toList → c' = c := by
  have h (c : Condition) : parse input = .ok c ↔ Spells c input.toList :=
    Outcome.mapError_eq_ok_iff.trans read_eq_ok_iff_spells
  refine ⟨h c, fun c' hc hc' => ?_⟩
  exact Except.ok.inj (((h c').2 hc').symm.trans ((h c).2 hc))

end Condition

end ColumnFilter
