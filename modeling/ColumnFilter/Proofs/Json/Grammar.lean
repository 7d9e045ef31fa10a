import ColumnFilter.Json.Skip
import ColumnFilter.Proofs.Json.Integers
import ColumnFilter.Proofs.Json.Spelling

/-! # The grammar of values

A value is a name, a number, a string, or values between brackets or braces with
commas between them, blanks being allowed around each of them. Neither the size of
a number nor the depth of a value is bounded, and any four hexadecimal digits make
an escape. A value is skipped up to what stands behind it, whatever that is, as long
as it does not go on a number.
-/

namespace ColumnFilter.Json

open Text (Digits Ends)

variable {first : Bool} {b s rest : List Char} {depth rounds : ℕ} {items : List (List Char)}

section Grammar

inductive IsFraction : List Char → Prop
  | none : IsFraction []
  | some {ds : List Char} : Digits ds → ds ≠ [] → IsFraction ('.' :: ds)

inductive IsExponent : List Char → Prop
  | none : IsExponent []
  | some {e : Char} {sign ds : List Char} : e = 'e' ∨ e = 'E' →
      sign = [] ∨ sign = ['+'] ∨ sign = ['-'] → Digits ds → ds ≠ [] →
      IsExponent (e :: (sign ++ ds))

inductive IsNumber : List Char → Prop
  | intro {n : Numeral} {fraction exponent : List Char} : n.Integral → IsFraction fraction →
      IsExponent exponent → IsNumber (n.chars ++ (fraction ++ exponent))

/-- A character of a string as it stands, or an escape. -/
inductive IsPiece : List Char → Prop
  | plain {c : Char} : c ≠ '"' → c ≠ '\\' → 0x20 ≤ c.toNat → IsPiece [c]
  | letter {l c : Char} : unescapeLetter? l = some c → IsPiece ['\\', l]
  | unit {ds : List Char} {n : ℕ} : SpellsUnit ds n → IsPiece ('\\' :: 'u' :: ds)

inductive IsString : List Char → Prop
  | intro {pieces : List (List Char)} : (∀ p ∈ pieces, IsPiece p) →
      IsString ('"' :: (pieces.flatten ++ ['"']))

/-- The items with commas between them, and one before the first of them unless that begins a list.
Blanks may stand before and behind every comma and every item. -/
inductive Separated : Bool → List (List Char) → List Char → Prop
  | nil {first : Bool} {b : List Char} : Blanks b → Separated first [] b
  | cons {first : Bool} {b b' item s : List Char} {items : List (List Char)} : Blanks b →
      Blanks b' → Separated false items s →
      Separated first (item :: items) (b ++ (separator first ++ (b' ++ (item ++ s))))

structure Member where
  name : List Char
  value : List Char
  /-- The blanks before the colon. -/
  before : List Char
  /-- The blanks behind the colon. -/
  behind : List Char
  blanks_before : Blanks before
  blanks_behind : Blanks behind

def Member.text (m : Member) : List Char :=
  m.name ++ (m.before ++ ':' :: (m.behind ++ m.value))

inductive IsValue : List Char → Prop
  | null : IsValue ['n', 'u', 'l', 'l']
  | boolean (v : Bool) : IsValue (toString v).toList
  | number {s : List Char} : IsNumber s → IsValue s
  | string {s : List Char} : IsString s → IsValue s
  | array {values : List (List Char)} {s : List Char} : (∀ v ∈ values, IsValue v) →
      Separated true values s → IsValue ('[' :: (s ++ [']']))
  | object {members : List Member} {s : List Char} : (∀ m ∈ members, IsString m.name) →
      (∀ m ∈ members, IsValue m.value) → Separated true (members.map Member.text) s →
      IsValue ('\x7b' :: (s ++ ['\x7d']))

end Grammar

section Lists

def BeginsItem (s : List Char) : Prop := ∃ c t, s = c :: t ∧ isBlank c = false ∧ c ≠ ']'

theorem BeginsItem.length_pos (h : BeginsItem s) : 0 < s.length := by
  obtain ⟨c, t, rfl, -, -⟩ := h
  exact Nat.succ_pos _

theorem nextItem_append (hb : Blanks b) (s : List Char) :
    nextItem first (b ++ s) = nextItem first s := by
  unfold nextItem
  simp only [skipBlanks_append hb]

theorem nextName_append (hb : Blanks b) (s : List Char) :
    nextName first (b ++ s) = nextName first s := by
  unfold nextName
  simp only [skipBlanks_append hb]

theorem nextItem_separator (hb : Blanks b) (hs : BeginsItem s) :
    nextItem first (separator first ++ (b ++ s)) = .ok (some s) := by
  obtain ⟨c, t, rfl, hc, he⟩ := hs
  have ht : skipBlanks (b ++ c :: t) = c :: t := skipBlanks_append_cons hb hc t
  cases first with
  | true => simp [nextItem, separator, ht, he]
  | false => simp [nextItem, separator, ht, he, skipBlanks_cons (c := ',') rfl]

theorem nextName_separator (hb : Blanks b) (s : List Char) :
    nextName first (separator first ++ (b ++ '"' :: s)) = .ok (some s) := by
  have hs : skipBlanks (b ++ '"' :: s) = '"' :: s := skipBlanks_append_cons hb rfl s
  cases first with
  | true => simp [nextName, separator, hs]
  | false => simp [nextName, separator, hs, skipBlanks_cons (c := ',') rfl]

theorem nextItem_text (first : Bool) {b' item : List Char} (hb : Blanks b) (hb' : Blanks b')
    (hi : BeginsItem item) (s rest : List Char) :
    nextItem first (b ++ (separator first ++ (b' ++ (item ++ s))) ++ rest) =
      .ok (some (item ++ (s ++ rest))) := by
  obtain ⟨c, t, rfl, hc, he⟩ := hi
  rw [List.append_assoc, nextItem_append hb]
  simp only [List.append_assoc]
  exact nextItem_separator hb' ⟨c, _, rfl, hc, he⟩

theorem nextName_text (first : Bool) {b' name : List Char} (hb : Blanks b) (hb' : Blanks b')
    {m : Member} (hm : m.name = '"' :: (name ++ ['"'])) (s rest : List Char) :
    nextName first (b ++ (separator first ++ (b' ++ (m.text ++ s))) ++ rest) =
      .ok (some (name ++ '"' :: (m.before ++ ':' :: (m.behind ++ (m.value ++ (s ++ rest)))))) := by
  rw [List.append_assoc, nextName_append hb]
  simpa [Member.text, hm] using nextName_separator hb' _

theorem nextItem_bracket (hb : Blanks b) (rest : List Char) :
    nextItem first (b ++ ']' :: rest) = .ok none := by
  simp [nextItem, skipBlanks_append_cons hb (c := ']') rfl]

theorem nextName_brace (hb : Blanks b) (rest : List Char) :
    nextName first (b ++ '\x7d' :: rest) = .ok none := by
  simp [nextName, skipBlanks_append_cons hb (c := '\x7d') rfl]

theorem close_append {c : Char} (hb : Blanks b) (hc : isBlank c = false) (rest : List Char) :
    close (b ++ c :: rest) = rest := by
  rw [close, skipBlanks_append_cons hb hc, List.drop_one, List.tail_cons]

theorem Member.length_value_lt (m : Member) : m.value.length < m.text.length := by
  simp only [Member.text, List.length_append, List.length_cons]
  omega

theorem Member.length_text_pos (m : Member) : 0 < m.text.length :=
  Nat.zero_lt_of_lt m.length_value_lt

theorem Separated.length_le (h : Separated first items s) (hi : ∀ i ∈ items, 0 < i.length) :
    items.length ≤ s.length := by
  induction h with
  | nil => simp
  | cons _ _ _ ih =>
    obtain ⟨hi, his⟩ := List.forall_mem_cons.1 hi
    have := ih his
    simp only [List.length_append, List.length_cons]
    omega

theorem Separated.length_lt (h : Separated first items s) (hi : ∀ i ∈ items, 0 < i.length)
    (rest : List Char) : items.length < (s ++ rest).length + 1 := by
  have := h.length_le hi
  rw [List.length_append]
  omega

theorem Separated.length_le_of_mem (h : Separated first items s) :
    ∀ i ∈ items, i.length ≤ s.length := by
  induction h with
  | nil => simp
  | cons _ _ _ ih =>
    refine List.forall_mem_cons.2 ⟨by simp only [List.length_append]; omega, fun i hi => ?_⟩
    have := ih i hi
    simp only [List.length_append]
    omega

theorem Separated.ends (h : Separated false items s) {c : Char} (hc : c = ']' ∨ c = '\x7d')
    (rest : List Char) : Ends continuesInteger (s ++ c :: rest) := by
  cases h with
  | nil hb =>
    refine ends_append hb (Text.ends_cons.2 ?_)
    rcases hc with rfl | rfl <;> rfl
  | cons hb _ _ =>
    rw [List.append_assoc]
    exact ends_append hb (Text.ends_cons.2 rfl)

end Lists

section Numbers

def continuesDigits (c : Char) : Bool := c.isDigit || c == '.'

theorem Ends.mono {p q : Char → Bool} (h : ∀ c, p c = false → q c = false) (hs : Ends p s) :
    Ends q s := fun c hc => h c (hs c hc)

theorem continuesDigits_eq_false {c : Char} (h : continuesInteger c = false) :
    continuesDigits c = false := by
  simp_all [continuesInteger, continuesDigits]

theorem isDigit_eq_false {c : Char} (h : continuesDigits c = false) : c.isDigit = false := by
  simp_all [continuesDigits]

theorem IsExponent.ends (h : IsExponent s) (hr : Ends continuesInteger rest) :
    Ends continuesDigits (s ++ rest) := by
  cases h with
  | none => exact Ends.mono (fun c => continuesDigits_eq_false) hr
  | some he _ _ _ => rcases he with rfl | rfl <;> exact Text.ends_cons.2 rfl

theorem IsFraction.ends (h : IsFraction s) (hr : Ends continuesDigits rest) :
    Ends Char.isDigit (s ++ rest) := by
  cases h with
  | none => exact Ends.mono (fun c => isDigit_eq_false) hr
  | some _ _ => exact Text.ends_cons.2 rfl

theorem splitSign_append {sign ds : List Char} (hs : sign = [] ∨ sign = ['+'] ∨ sign = ['-'])
    (hd : Digits ds) (hne : ds ≠ []) (rest : List Char) :
    (Text.splitSign (sign ++ (ds ++ rest))).2 = ds ++ rest := by
  rcases hs with rfl | rfl | rfl
  · obtain ⟨c, ds, rfl⟩ := List.exists_cons_of_ne_nil hne
    have hc := (Text.digits_cons.1 hd).1
    rw [List.nil_append, List.cons_append]
    unfold Text.splitSign
    split
    · next he => exact absurd ((List.cons.inj he).1 ▸ hc) (by decide)
    · next he => exact absurd ((List.cons.inj he).1 ▸ hc) (by decide)
    · rfl
  · rfl
  · rfl

theorem readExponent_append (h : IsExponent s) (hr : Ends continuesInteger rest) :
    ∃ e, readExponent (s ++ rest) = .ok (e, rest) := by
  cases h with
  | none =>
    cases rest with
    | nil => exact ⟨_, rfl⟩
    | cons c rest =>
      have := Text.ends_cons.1 hr
      simp_all [continuesInteger, readExponent]
  | @some e sign ds he hs hd hne =>
    have hsign := splitSign_append hs hd hne rest
    rw [List.cons_append, List.append_assoc, readExponent, if_pos he]
    rcases h : Text.splitSign (sign ++ (ds ++ rest)) with ⟨negative, t⟩
    rw [h] at hsign
    subst hsign
    dsimp only
    rw [readDigits_append hd hne
      (Ends.mono (fun c h => isDigit_eq_false (continuesDigits_eq_false h)) hr)]
    exact ⟨_, rfl⟩

theorem readFraction_append (h : IsFraction s) (hr : Ends continuesDigits rest) :
    ∃ f, readFraction (s ++ rest) = .ok (f, rest) := by
  cases h with
  | none =>
    refine ⟨none, ?_⟩
    rw [List.nil_append]
    unfold readFraction
    split
    · exact absurd (Text.ends_cons.1 hr) (by decide)
    · rfl
  | some hd hne =>
    have hends : Ends Char.isDigit rest := Ends.mono (fun c => isDigit_eq_false) hr
    rw [List.cons_append, readFraction, readDigits_append hd hne hends]
    exact ⟨_, rfl⟩

theorem skipNumber_append (h : IsNumber s) (hr : Ends continuesInteger rest) :
    skipNumber (s ++ rest) = .ok ((), rest) := by
  cases h with
  | @intro n fraction exponent hn hf he =>
    have hexponent : Ends continuesDigits (exponent ++ rest) := he.ends hr
    have hfraction : Ends Char.isDigit (fraction ++ (exponent ++ rest)) := hf.ends hexponent
    obtain ⟨f, hf⟩ := readFraction_append hf hexponent
    obtain ⟨e, he⟩ := readExponent_append he hr
    rw [skipNumber, List.append_assoc, List.append_assoc, readWritten_append hn hfraction, hf]
    simp only [bind, Except.bind, he]
    rfl

end Numbers

section Strings

theorem skipString_quote (rest : List Char) : skipString ('"' :: rest) = .ok ((), rest) := by
  rw [skipString, if_pos rfl]

theorem skipString_backslash {after : List Char} (h : skipEscape s = .ok ((), after)) :
    skipString ('\\' :: s) = skipString after := by
  rw [skipString, if_neg (by decide), if_pos rfl]
  split
  · next he => cases h.symm.trans he
  · next he =>
    obtain ⟨-, rfl⟩ := Prod.mk.inj (Except.ok.inj (h.symm.trans he))
    rfl

theorem skipString_cons {c : Char} (hq : c ≠ '"') (hb : c ≠ '\\') (hc : 0x20 ≤ c.toNat)
    (s : List Char) : skipString (c :: s) = skipString s := by
  rw [skipString, if_neg hq, if_neg hb, if_neg (by omega)]

theorem skipString_piece (h : IsPiece s) (rest : List Char) :
    skipString (s ++ rest) = skipString rest := by
  cases h with
  | plain hq hb hc => exact skipString_cons hq hb hc rest
  | @letter l c hl =>
    have hu : l ≠ 'u' := by
      rintro rfl
      cases hl
    have he : readEscape (l :: rest) = .ok (c, rest) := by
      rw [readEscape, hl]
      exact hu
    refine skipString_backslash (s := l :: rest) ?_
    unfold skipEscape
    split
    · next h => exact absurd (List.cons.inj h).1 hu
    · rw [he]
      rfl
  | @unit ds n hd =>
    rw [List.cons_append]
    refine skipString_backslash ?_
    rw [List.cons_append, skipEscape, readUnit_eq_ok_iff.2 ⟨ds, hd, rfl⟩]
    rfl

theorem skipString_append {pieces : List (List Char)} (h : ∀ p ∈ pieces, IsPiece p)
    (rest : List Char) : skipString (pieces.flatten ++ '"' :: rest) = .ok ((), rest) := by
  induction pieces with
  | nil => exact skipString_quote rest
  | cons p pieces ih =>
    obtain ⟨hp, hps⟩ := List.forall_mem_cons.1 h
    rw [List.flatten_cons, List.append_assoc, skipString_piece hp, ih hps]

end Strings

section Skipping

theorem skipValue_blanks (hb : Blanks b) (s : List Char) :
    skipValue depth (b ++ s) = skipValue depth s := by
  unfold skipValue
  simp only [skipBlanks_append hb]

/-- A text is skipped with the blanks before it, up to anything that does not go on a number. -/
def Skips (item : Reader Unit) (s : List Char) : Prop :=
  ∀ b rest, Blanks b → Ends continuesInteger rest → item (b ++ (s ++ rest)) = .ok ((), rest)

theorem skipValue_number {c : Char} (hc : isNumberStart c = true) (s : List Char) :
    skipValue depth (c :: s) = skipNumber (c :: s) := by
  have hne (d : Char) (hd : isNumberStart d = false) : c ≠ d := ne_of_isNumberStart hc hd
  unfold skipValue
  simp only [skipBlanks_cons (isBlank_of_isNumberStart hc)]
  rw [if_neg (hne _ rfl), if_neg (hne _ rfl), if_neg (hne _ rfl), if_pos hc]

theorem skipValue_bracket (depth : ℕ) (s : List Char) : skipValue (depth + 1) ('[' :: s) =
    (readItems (skipValue depth) (s.length + 1) true s).map fun (_, rest) => ((), rest) := by
  unfold skipValue
  simp only [skipBlanks_cons (c := '[') rfl]
  rfl

theorem skipValue_brace (depth : ℕ) (s : List Char) : skipValue (depth + 1) ('\x7b' :: s) =
    skipMembers (skipValue depth) (s.length + 1) true s := by
  unfold skipValue
  simp only [skipBlanks_cons (c := '\x7b') rfl]
  rfl

theorem skipValue_quote (depth : ℕ) (s : List Char) :
    skipValue depth ('"' :: s) = skipString s := by
  unfold skipValue
  simp only [skipBlanks_cons (c := '"') rfl]
  rfl

theorem IsNumber.exists_cons (h : IsNumber s) : ∃ c t, s = c :: t ∧ isNumberStart c = true := by
  cases h with
  | intro hn _ _ =>
    obtain ⟨c, t, hc, hs⟩ := exists_cons_chars hn
    exact ⟨c, _, by rw [hc, List.cons_append], hs⟩

theorem IsValue.beginsItem (h : IsValue s) : BeginsItem s := by
  cases h with
  | null => exact ⟨_, _, rfl, rfl, by decide⟩
  | boolean v => cases v <;> exact ⟨_, _, rfl, rfl, by decide⟩
  | number hn =>
    obtain ⟨c, t, rfl, hc⟩ := hn.exists_cons
    refine ⟨c, t, rfl, isBlank_of_isNumberStart hc, ?_⟩
    rintro rfl
    cases hc
  | string hs =>
    cases hs with
    | intro _ => exact ⟨_, _, rfl, rfl, by decide⟩
  | array _ _ => exact ⟨_, _, rfl, rfl, by decide⟩
  | object _ _ _ => exact ⟨_, _, rfl, rfl, by decide⟩

theorem readItems_separated {item : Reader Unit} (h : Separated first items s)
    (hi : ∀ i ∈ items, BeginsItem i ∧ Skips item i) (hr : items.length < rounds)
    (rest : List Char) :
    ∃ vs, readItems item rounds first (s ++ ']' :: rest) = .ok (vs, rest) := by
  induction h generalizing rounds with
  | nil hb =>
    obtain ⟨rounds, rfl⟩ := Nat.exists_eq_add_of_lt hr
    refine ⟨[], ?_⟩
    simp only [readItems, nextItem_bracket hb, close_append hb (c := ']') rfl, bind, Except.bind]
    rfl
  | @cons first b b' i s items hb hb' hs ih =>
    obtain ⟨rounds, rfl⟩ : ∃ n, rounds = n + 1 := ⟨rounds - 1, by omega⟩
    obtain ⟨⟨hbegin, hskip⟩, his⟩ := List.forall_mem_cons.1 hi
    rw [List.length_cons, Nat.add_lt_add_iff_right] at hr
    obtain ⟨vs, hvs⟩ := ih his hr
    have hnext := nextItem_text first hb hb' hbegin s (']' :: rest)
    refine ⟨() :: vs, ?_⟩
    have hitem := hskip [] _ blanks_nil (hs.ends (.inl rfl) rest)
    rw [List.nil_append] at hitem
    simp only [readItems, hnext, hitem, hvs, bind, Except.bind]
    rfl

theorem skipMembers_separated {item : Reader Unit} {members : List Member}
    (hn : ∀ m ∈ members, IsString m.name) (hv : ∀ m ∈ members, Skips item m.value)
    (h : Separated first (members.map Member.text) s) (hr : members.length < rounds)
    (rest : List Char) : skipMembers item rounds first (s ++ '\x7d' :: rest) = .ok ((), rest) := by
  induction members generalizing first s rounds with
  | nil =>
    obtain ⟨hb⟩ := h
    obtain ⟨rounds, rfl⟩ := Nat.exists_eq_add_of_lt hr
    simp only [skipMembers, nextName_brace hb, close_append hb (c := '\x7d') rfl, bind,
      Except.bind]
    rfl
  | cons m members ih =>
    rw [List.map_cons] at h
    obtain ⟨rounds, rfl⟩ : ∃ n, rounds = n + 1 := ⟨rounds - 1, by omega⟩
    obtain ⟨hn, hns⟩ := List.forall_mem_cons.1 hn
    obtain ⟨hv, hvs⟩ := List.forall_mem_cons.1 hv
    rw [List.length_cons, Nat.add_lt_add_iff_right] at hr
    generalize hname : m.name = name at hn
    obtain ⟨hp⟩ := hn
    cases h with
    | @cons _ b b' _ s _ hb hb' hs =>
    have hnext := nextName_text first hb hb' hname s ('\x7d' :: rest)
    simp only [skipMembers, hnext, skipString_append hp, readColon_blanks m.blanks_before,
      hv _ _ m.blanks_behind (hs.ends (.inr rfl) rest), bind, Except.bind, ih hns hvs hs hr]

/-- A value is skipped at any depth that its text could reach. -/
theorem IsValue.skips (h : IsValue s) (hd : s.length ≤ depth) : Skips (skipValue depth) s := by
  induction h generalizing depth with
  | null =>
    intro b rest hb _
    rw [skipValue_blanks hb]
    unfold skipValue
    rfl
  | boolean v =>
    intro b rest hb _
    rw [skipValue_blanks hb]
    unfold skipValue
    cases v <;> rfl
  | number hn =>
    intro b rest hb hr
    obtain ⟨c, t, rfl, hc⟩ := hn.exists_cons
    rw [skipValue_blanks hb, List.cons_append, skipValue_number hc]
    exact skipNumber_append hn hr
  | string hs =>
    intro b rest hb _
    obtain ⟨hp⟩ := hs
    rw [skipValue_blanks hb, List.cons_append, skipValue_quote, List.append_assoc]
    exact skipString_append hp rest
  | @array values s hv hs ih =>
    intro b rest hb _
    simp only [List.length_cons, List.length_append, List.length_nil] at hd
    obtain ⟨depth, rfl⟩ : ∃ n, depth = n + 1 := ⟨depth - 1, by omega⟩
    have hvalues : ∀ v ∈ values, BeginsItem v ∧ Skips (skipValue depth) v := fun v hm =>
      ⟨(hv v hm).beginsItem, ih v hm (by have := hs.length_le_of_mem v hm; omega)⟩
    have hrounds := hs.length_lt (fun v hm => (hv v hm).beginsItem.length_pos) (']' :: rest)
    obtain ⟨vs, hvs⟩ := readItems_separated hs hvalues hrounds rest
    rw [skipValue_blanks hb, List.cons_append, List.append_assoc, skipValue_bracket,
      List.singleton_append, hvs]
    rfl
  | @object members s hn hv hs ih =>
    intro b rest hb _
    simp only [List.length_cons, List.length_append, List.length_nil] at hd
    obtain ⟨depth, rfl⟩ : ∃ n, depth = n + 1 := ⟨depth - 1, by omega⟩
    have hvalues : ∀ m ∈ members, Skips (skipValue depth) m.value := fun m hm => by
      have := hs.length_le_of_mem m.text (List.mem_map_of_mem hm)
      have := m.length_value_lt
      exact ih m hm (by omega)
    have hrounds := hs.length_lt (List.forall_mem_map.2 fun m _ => m.length_text_pos)
      ('\x7d' :: rest)
    rw [List.length_map] at hrounds
    rw [skipValue_blanks hb, List.cons_append, List.append_assoc, skipValue_brace,
      List.singleton_append]
    exact skipMembers_separated hn hvalues hs hrounds rest

theorem IsValue.skip (h : IsValue s) : Skips skip s := by
  intro b rest hb hr
  exact h.skips (by simp only [List.length_append]; omega) b rest hb hr

end Skipping

end ColumnFilter.Json
