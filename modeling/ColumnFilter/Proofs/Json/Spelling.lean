import ColumnFilter.Proofs.Json.Layout
import ColumnFilter.Proofs.Outcome

/-! # Spellings of strings

A character of a string is written as it stands, behind a backslash by a letter,
or by one or two numbers of four hexadecimal digits. A string is read just if
its characters are written in one of these ways up to a closing quote, and a
text is decoded as a string just if it is one between blanks.
-/

namespace ColumnFilter.Json

open Text (hexValue?)

variable {c : Char} {n m : Nat} {s t u rest : List Char}

inductive SpellsUnit : List Char → Nat → Prop
  | intro {a b c d : Char} {i j k l : Nat} : hexValue? a = some i → hexValue? b = some j →
      hexValue? c = some k → hexValue? d = some l →
      SpellsUnit [a, b, c, d] (((i * 16 + j) * 16 + k) * 16 + l)

/-- The characters spell a single one between the quotes of a string. -/
inductive SpellsChar : List Char → Char → Prop
  | plain {c : Char} : c ≠ '"' → c ≠ '\\' → 0x20 ≤ c.toNat → SpellsChar [c] c
  | letter {l c : Char} : unescapeLetter? l = some c → SpellsChar ['\\', l] c
  | unit {ds : List Char} {n : Nat} : SpellsUnit ds n → isTrailing n = false →
      isLeading n = false → SpellsChar ('\\' :: 'u' :: ds) (Char.ofNat n)
  | pair {ds es : List Char} {n m : Nat} : SpellsUnit ds n → SpellsUnit es m →
      isLeading n = true → isTrailing m = true →
      SpellsChar ('\\' :: 'u' :: (ds ++ '\\' :: 'u' :: es))
        (Char.ofNat (0x10000 + (n - 0xD800) * 0x400 + (m - 0xDC00)))

/-- The characters spell others between the quotes of a string. -/
inductive Spells : List Char → List Char → Prop
  | nil : Spells [] []
  | cons {u s t : List Char} {c : Char} : SpellsChar u c → Spells s t → Spells (u ++ s) (c :: t)

section Units

theorem hexUnit?_eq_some_iff :
    hexUnit? s = some (n, rest) ↔ ∃ ds, SpellsUnit ds n ∧ s = ds ++ rest := by
  constructor
  · intro h
    unfold hexUnit? at h
    split at h
    · simp only [Option.bind_eq_bind, Option.bind_eq_some_iff, Option.pure_def, Option.some.injEq,
        Prod.mk.injEq] at h
      obtain ⟨i, ha, j, hb, k, hc, l, hd, rfl, rfl⟩ := h
      exact ⟨_, .intro ha hb hc hd, rfl⟩
    · cases h
  · rintro ⟨_, ⟨ha, hb, hc, hd⟩, rfl⟩
    simp [hexUnit?, ha, hb, hc, hd]

theorem readUnit_eq_ok_iff :
    readUnit s = .ok (n, rest) ↔ ∃ ds, SpellsUnit ds n ∧ s = ds ++ rest := by
  rw [← hexUnit?_eq_some_iff, readUnit]
  split
  · next h => simp [h]
  · next h =>
    rw [h]
    split <;> simp only [reduceCtorEq]

theorem expectInPair_eq_ok_iff : expectInPair c s = .ok rest ↔ s = c :: rest := by
  cases s with
  | nil => simp only [expectInPair, reduceCtorEq]
  | cons d s =>
    rw [expectInPair, List.cons.injEq]
    split
    · next h => simp [h]
    · next h => simp [h]

theorem isTrailing_of_isLeading (h : isLeading n = true) : isTrailing n = false := by
  simp only [isLeading, Bool.and_eq_true, decide_eq_true_eq] at h
  simp only [isTrailing, Bool.and_eq_false_iff, decide_eq_false_iff_not]
  omega

end Units

theorem readEscape_append (h : SpellsChar ('\\' :: u) c) (s : List Char) :
    readEscape (u ++ s) = .ok (c, s) := by
  generalize hv : '\\' :: u = v at h
  cases h with
  | plain _ hb _ =>
    cases hv
    exact absurd rfl hb
  | @letter l _ hl =>
    cases hv
    have hu : l ≠ 'u' := by
      rintro rfl
      cases hl
    rw [List.singleton_append, readEscape, hl]
    exact hu
  | unit hd ht hl =>
    cases hv
    rw [List.cons_append, readEscape, readUnicode, readUnit_eq_ok_iff.2 ⟨_, hd, rfl⟩,
      Outcome.ok_bind]
    simp only [ht, hl]
    rfl
  | @pair ds es n m hd he hl ht =>
    cases hv
    have hb : expectInPair '\\' ('\\' :: 'u' :: (es ++ s)) = .ok ('u' :: (es ++ s)) :=
      expectInPair_eq_ok_iff.2 rfl
    have hu : expectInPair 'u' ('u' :: (es ++ s)) = .ok (es ++ s) := expectInPair_eq_ok_iff.2 rfl
    rw [List.cons_append, List.append_assoc, List.cons_append, List.cons_append, readEscape,
      readUnicode, readUnit_eq_ok_iff.2 ⟨ds, hd, rfl⟩, Outcome.ok_bind]
    simp only [isTrailing_of_isLeading hl, hl, hb, hu, Outcome.ok_bind,
      readUnit_eq_ok_iff.2 ⟨es, he, rfl⟩, ht, Bool.false_eq_true, if_false, if_true]
    rfl

theorem exists_of_readUnicode (hr : readUnicode s = .ok (c, rest)) :
    ∃ u, SpellsChar ('\\' :: 'u' :: u) c ∧ s = u ++ rest := by
  obtain ⟨⟨n, s₁⟩, hn, h⟩ := Outcome.bind_eq_ok_iff.1 hr
  obtain ⟨ds, hd, rfl⟩ := readUnit_eq_ok_iff.1 hn
  dsimp only at h
  split at h
  · cases h
  next ht =>
  split at h
  · next hl =>
    obtain ⟨s₂, hs₂, h₂⟩ := Outcome.bind_eq_ok_iff.1 h
    obtain ⟨s₃, hs₃, h₃⟩ := Outcome.bind_eq_ok_iff.1 h₂
    obtain ⟨⟨m, s₄⟩, hm, h₄⟩ := Outcome.bind_eq_ok_iff.1 h₃
    obtain rfl := expectInPair_eq_ok_iff.1 hs₂
    obtain rfl := expectInPair_eq_ok_iff.1 hs₃
    obtain ⟨es, he, rfl⟩ := readUnit_eq_ok_iff.1 hm
    dsimp only at h₄
    split at h₄
    · next htm =>
      obtain ⟨rfl, rfl⟩ := Prod.mk.inj (Except.ok.inj h₄)
      exact ⟨_, .pair hd he hl htm, by simp⟩
    · cases h₄
  · next hl =>
    cases h
    exact ⟨ds, .unit hd (eq_false_of_ne_true ht) (eq_false_of_ne_true hl), rfl⟩

theorem exists_of_readEscape (h : readEscape s = .ok (c, rest)) :
    ∃ u, SpellsChar ('\\' :: u) c ∧ s = u ++ rest := by
  unfold readEscape at h
  split at h
  · cases h
  · next s =>
    obtain ⟨u, hu, rfl⟩ := exists_of_readUnicode h
    exact ⟨'u' :: u, hu, rfl⟩
  · next l s _ =>
    split at h
    · next d hd =>
      cases h
      exact ⟨[l], .letter hd, rfl⟩
    · cases h

theorem readChars_append (h : SpellsChar u c) (s : List Char) :
    readChars (u ++ s) = (readChars s).map fun (text, rest) => (c :: text, rest) := by
  by_cases hb : ∃ v, u = '\\' :: v
  · obtain ⟨v, rfl⟩ := hb
    exact readChars_backslash (readEscape_append h s)
  · cases h with
    | plain hq hc hn => exact readChars_cons hq hc hn s
    | letter | unit | pair => exact absurd ⟨_, rfl⟩ hb

theorem exists_of_readChars (h : readChars s = .ok (t, rest)) :
    ∃ spelled, Spells spelled t ∧ s = spelled ++ '"' :: rest := by
  fun_induction readChars s generalizing t with
  | case1 => cases h
  | case2 s =>
    cases h
    exact ⟨[], .nil, rfl⟩
  | case3 => cases h
  | case4 s c after he _ _ ih =>
    obtain ⟨⟨text, s₁⟩, ht, h⟩ := Outcome.map_eq_ok_iff.1 h
    cases h
    obtain ⟨u, hu, rfl⟩ := exists_of_readEscape he
    obtain ⟨spelled, hs, rfl⟩ := ih ht
    exact ⟨_, .cons hu hs, by simp⟩
  | case5 => cases h
  | case6 c s hq hb hc ih =>
    obtain ⟨⟨text, s₁⟩, ht, h⟩ := Outcome.map_eq_ok_iff.1 h
    cases h
    obtain ⟨spelled, hs, rfl⟩ := ih ht
    exact ⟨_, .cons (.plain hq hb (Nat.le_of_not_lt hc)) hs, rfl⟩

/-- What is read between the quotes of a string is a spelling of its characters. -/
theorem readChars_eq_ok_iff : readChars s = .ok (t, rest) ↔
    ∃ spelled, Spells spelled t ∧ s = spelled ++ '"' :: rest := by
  constructor
  · exact exists_of_readChars
  · rintro ⟨spelled, h, rfl⟩
    induction h with
    | nil => exact readChars_quote rest
    | cons hu _ ih =>
      rw [List.append_assoc, readChars_append hu, ih]
      rfl

section Decoding

variable {text : String}

/-- The characters are a string of the given text, in any spelling and with blanks around it. -/
inductive StringText (text : String) : List Char → Prop
  | intro {b b' spelled : List Char} : Blanks b → Blanks b' → Spells spelled text.toList →
      StringText text (b ++ '"' :: (spelled ++ '"' :: b'))

theorem exists_eq_append_skipBlanks (s : List Char) : ∃ b, Blanks b ∧ s = b ++ skipBlanks s :=
  ⟨s.takeWhile isBlank, fun _ => List.mem_takeWhile_imp, (List.takeWhile_append_dropWhile).symm⟩

theorem readString_eq_ok_iff : readString s = .ok (text, rest) ↔
    ∃ spelled, Spells spelled text.toList ∧ s = spelled ++ '"' :: rest := by
  rw [← readChars_eq_ok_iff, readString, Outcome.map_eq_ok_iff]
  constructor
  · rintro ⟨⟨t, s₁⟩, ht, h⟩
    cases h
    rwa [String.toList_ofList]
  · intro h
    exact ⟨_, h, congrArg (·, rest) String.ofList_toList⟩

/-- The spellings are what is read as the text, whatever is behind the closing quote. -/
theorem spellsText_iff {spelled : List Char} :
    SpellsText spelled text ↔ Spells spelled text.toList := by
  constructor
  · intro h
    obtain ⟨spelled', hs, he⟩ := readString_eq_ok_iff.1 (h [])
    rwa [List.append_cancel_right he]
  · intro h rest
    exact readString_eq_ok_iff.2 ⟨spelled, h, rfl⟩

theorem refuse_ne_ok {α : Type} (expected : String) (s : List Char) (r : α) :
    refuse expected s ≠ .ok r := by
  intro h
  obtain ⟨found, -, h⟩ := Outcome.bind_eq_ok_iff.1 h
  cases h

theorem decodeString_eq_ok_iff : decodeString s = .ok (text, rest) ↔
    ∃ b spelled, Blanks b ∧ Spells spelled text.toList ∧
      s = b ++ '"' :: (spelled ++ '"' :: rest) := by
  constructor
  · intro h
    obtain ⟨b, hb, hs⟩ := exists_eq_append_skipBlanks s
    unfold decodeString at h
    split at h
    · next s₁ hq =>
      obtain ⟨spelled, ht, rfl⟩ := readString_eq_ok_iff.1 (Outcome.mapError_eq_ok_iff.1 h)
      exact ⟨b, spelled, hb, ht, hs.trans (congrArg (b ++ ·) hq)⟩
    · exact absurd h (refuse_ne_ok _ _ _)
  · rintro ⟨b, spelled, hb, ht, rfl⟩
    rw [decodeString, skipBlanks_append_cons hb rfl]
    exact Outcome.mapError_eq_ok_iff.2 (readString_eq_ok_iff.2 ⟨spelled, ht, rfl⟩)

theorem finish_eq_ok_iff {α : Type} {r : α × List Char} {v : α} :
    finish r = .ok v ↔ Blanks r.2 ∧ r.1 = v := by
  rw [finish]
  split
  · next h =>
    have hb : Blanks r.2 := List.dropWhile_eq_nil_iff.1 h
    simp [hb]
  · next h =>
    have hb : ¬ Blanks r.2 := fun hb => h (skipBlanks_of_blanks hb)
    simp [hb]

theorem run_decodeString_eq_ok_iff {s : String} :
    Decoder.run decodeString s = .ok text ↔ StringText text s.toList := by
  rw [Decoder.run, Outcome.bind_eq_ok_iff]
  constructor
  · rintro ⟨⟨t, rest⟩, h, hf⟩
    obtain ⟨hb', rfl⟩ := finish_eq_ok_iff.1 (Outcome.mapError_eq_ok_iff.1 hf)
    obtain ⟨b, spelled, hb, ht, hs⟩ := decodeString_eq_ok_iff.1 h
    rw [hs]
    exact .intro hb hb' ht
  · intro h
    generalize hs : s.toList = l at h
    cases h with
    | @intro b b' spelled hb hb' ht =>
      refine ⟨(text, b'), decodeString_eq_ok_iff.2 ⟨b, spelled, hb, ht, rfl⟩, ?_⟩
      exact Outcome.mapError_eq_ok_iff.2 (finish_eq_ok_iff.2 ⟨hb', rfl⟩)

theorem stringText_compact (text : String) : StringText text (compactChars (string text)) := by
  rw [← List.append_nil (compactChars _), compactChars_string_append]
  exact .intro blanks_nil blanks_nil (spellsText_iff.1 (spellsText_escaped text))

end Decoding

end ColumnFilter.Json
