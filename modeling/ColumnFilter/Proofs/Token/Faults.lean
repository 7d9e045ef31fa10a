import ColumnFilter.Proofs.Outcome
import ColumnFilter.Proofs.Token.Pieces

/-! # Where reading stops

Reading stops at the first character that begins no token and at a quote without
a closing one. What stands in front of it is read as a text of its own, and what
stands behind a character that begins no token does not matter.
-/

namespace ColumnFilter

namespace Token

open Text (isBlank Ends byteLength Quoted.mark Quoted.encode)

def IsStray (c : Char) : Prop :=
  isBlank c = false ∧ c ∉ ['(', ')', ',', Quoted.mark] ∧ isOperatorChar c = false ∧
    isWordChar c = false

/-- What is wrong with a text that goes on with a character and what follows it. -/
inductive Stops (offset : ℕ) : Char → List Char → LexicalError → Prop
  | stray {c s} : IsStray c → Stops offset c s (.strayCharacter c offset)
  | unclosed {s} : (∃ text, s = Quoted.encode text) →
      Stops offset Quoted.mark s (.unclosedLiteral offset)

/-- A quote behind the characters does not double one that they end with. -/
def Parted (u : List Char) (c : Char) : Prop := c = Quoted.mark → u.getLast? ≠ some Quoted.mark

variable {t : Token} {c : Char} {s u v w : List Char} {offset : ℕ} {ps : List Placed}
  {e : LexicalError}

section Parted

theorem parted_nil (c : Char) : Parted [] c := fun _ => nofun

theorem Parted.of_append (h : Parted (w ++ u) c) : Parted u c := by
  intro hc hu
  exact h hc (by rw [List.getLast?_append, hu, Option.some_or])

theorem Parted.append (hw : u = [] → Parted w c) (hu : Parted u c) : Parted (w ++ u) c := by
  cases u with
  | nil =>
    rw [List.append_nil]
    exact hw rfl
  | cons d u =>
    intro hc
    rw [List.getLast?_append_of_ne_nil _ (List.cons_ne_nil d u)]
    exact hu hc

theorem getLast?_chars_iff (ht : t.WellFormed) :
    t.chars.getLast? = some Quoted.mark ↔ t.absorbs Quoted.mark = true := by
  have hw : isWordChar Quoted.mark = false := by decide
  have ho : isOperatorChar Quoted.mark = false := by decide
  cases t with
  | word text =>
    refine iff_of_false (fun h => ?_) (by simp [absorbs, hw])
    simp [ht.2 _ (List.mem_of_getLast? h)] at hw
  | operator text =>
    refine iff_of_false (fun h => ?_) (by simp [absorbs, ho])
    simp [ht.2 _ (List.mem_of_getLast? h)] at ho
  | quoted text =>
    have hl : (quoted text).chars =
        (Quoted.mark :: Quoted.encode text.toList) ++ [Quoted.mark] := rfl
    rw [hl, List.getLast?_concat]
    exact iff_of_true rfl rfl
  | opening | closing | comma => decide

theorem parted_chars (ht : t.WellFormed) (h : t.absorbs c = false) : Parted t.chars c := by
  rintro rfl hl
  rw [getLast?_chars_iff ht, h] at hl
  cases hl

/-- Only a literal is read on with what begins neither a word nor an operator. -/
theorem Parted.not_absorbs (h : Parted t.chars c) (ht : t.WellFormed) (hw : isWordChar c = false)
    (ho : isOperatorChar c = false) : t.absorbs c = false := by
  cases t with
  | word => exact hw
  | operator => exact ho
  | quoted text =>
    by_contra ha
    obtain rfl : c = Quoted.mark := by simpa [absorbs] using ha
    exact h rfl ((getLast?_chars_iff ht).2 rfl)
  | opening | closing | comma => rfl

end Parted

theorem read_mark_eq_error (h : Text.Quoted.read s = none) :
    read offset Quoted.mark s = .error (.unclosedLiteral offset) := by
  rw [read, if_neg (by decide), if_neg (by decide), if_neg (by decide), if_pos rfl, h]

theorem IsStray.read_eq_error (h : IsStray c) :
    read offset c s = .error (.strayCharacter c offset) := by
  obtain ⟨-, hc, ho, hw⟩ := h
  simp only [List.mem_cons, List.not_mem_nil, or_false, not_or] at hc
  obtain ⟨h₁, h₂, h₃, h₄⟩ := hc
  rw [read, if_neg h₁, if_neg h₂, if_neg h₃, if_neg h₄, if_neg (by simp [ho]),
    if_neg (by simp [hw])]

theorem stops_of_read (hc : isBlank c = false) (h : read offset c s = .error e) :
    Stops offset c s e := by
  unfold read at h
  split at h; · cases h
  next h₁ =>
  split at h; · cases h
  next h₂ =>
  split at h; · cases h
  next h₃ =>
  split at h
  · next hm =>
    split at h
    · cases h
    · next hr =>
      obtain rfl := Except.error.inj h
      exact hm ▸ .unclosed (Text.Quoted.read_eq_none_iff.1 hr)
  next h₄ =>
  split at h; · cases h
  next ho =>
  split at h; · cases h
  next hw =>
  obtain rfl := Except.error.inj h
  exact .stray ⟨hc, by simp [h₁, h₂, h₃, h₄], by simpa using ho, by simpa using hw⟩

theorem Stops.read_eq_error (h : Stops offset c s e) : read offset c s = .error e := by
  cases h with
  | stray hc => exact hc.read_eq_error
  | unclosed hs => exact read_mark_eq_error (Text.Quoted.read_eq_none_iff.2 hs)

theorem Stops.classes (h : Stops offset c s e) :
    isBlank c = false ∧ isWordChar c = false ∧ isOperatorChar c = false := by
  cases h with
  | stray hc => exact ⟨hc.1, hc.2.2.2, hc.2.2.1⟩
  | unclosed => decide

theorem readAll_of_stops (h : Stops offset c s e) : readAll offset (c :: s) = .error e := by
  rw [readAll, if_neg (by simp [h.classes.1])]
  split
  · next he =>
    obtain rfl := Except.error.inj (h.read_eq_error.symm.trans he)
    rfl
  · next he => cases h.read_eq_error.symm.trans he

/-- What a text that is read is followed by is read as if nothing stood in front of it, unless it
goes on with the last token. -/
theorem Laid.readAll_append (h : Laid offset u ps)
    (hs : ∀ c ∈ s.head?, isWordChar c = false ∧ isOperatorChar c = false ∧ Parted u c) :
    readAll offset (u ++ s) = (readAll (offset + byteLength u) s).map (ps ++ ·) := by
  induction h with
  | @done offset g hg =>
    rw [readAll_blanks_append hg]
    cases readAll (offset + byteLength g) s <;> rfl
  | @next offset g t rest ps hg ht he _ ih =>
    have hr : Ends t.absorbs (rest ++ s) := by
      cases rest with
      | cons d rest => exact Text.ends_cons.2 (Text.ends_cons.1 he)
      | nil =>
        intro c hc
        obtain ⟨hw, ho, hp⟩ := hs c hc
        rw [List.append_nil] at hp
        exact hp.of_append.not_absorbs ht hw ho
    have ih := ih fun c hc => by
      obtain ⟨hw, ho, hp⟩ := hs c hc
      exact ⟨hw, ho, hp.of_append.of_append⟩
    rw [List.append_assoc, List.append_assoc, readAll_blanks_append hg, readAll_chars_append ht hr,
      ih, Text.byteLength_append, Text.byteLength_append, ← Nat.add_assoc, ← Nat.add_assoc]
    cases readAll (offset + byteLength g + byteLength t.chars + byteLength rest) s <;> rfl

theorem exists_stops_of_readAll (h : readAll offset s = .error e) :
    ∃ u ps c v, s = u ++ c :: v ∧ Laid offset u ps ∧ Parted u c ∧
      Stops (offset + byteLength u) c v e := by
  fun_induction readAll offset s with
  | case1 => cases h
  | case2 offset d s hd ih =>
    obtain ⟨u, ps, c, v, rfl, hl, hp, hv⟩ := ih h
    rw [Nat.add_assoc, ← Text.byteLength_cons] at hv
    refine ⟨d :: u, ps, c, v, rfl, hl.cons_blank hd, hp.append (w := [d]) fun _ => ?_, hv⟩
    rintro rfl hm
    obtain rfl := Option.some.inj hm
    exact absurd hd (by decide)
  | case3 offset d s hd e' hr =>
    obtain rfl := Except.error.inj h
    have hstops := stops_of_read (by simpa using hd) hr
    exact ⟨[], [], d, s, rfl, .done Text.blanks_nil, parted_nil d, hstops⟩
  | case4 offset d s hd t rest hr _ ih =>
    obtain ⟨hs, ht, he⟩ := read_eq_ok_iff.1 hr
    obtain ⟨u, ps, c, v, rfl, hl, hp, hv⟩ := ih (Outcome.map_eq_error_iff.1 h)
    refine ⟨t.chars ++ u, _, c, v, by rw [hs, List.append_assoc],
      .next (g := []) Text.blanks_nil ht ?_ hl, hp.append fun hu => ?_, ?_⟩
    · cases u with
      | nil => exact Text.ends_nil _
      | cons d u => exact Text.ends_cons.2 (Text.ends_cons.1 he)
    · subst hu
      exact parted_chars ht (Text.ends_cons.1 he)
    · rwa [Text.byteLength_append, ← Nat.add_assoc]

theorem readAll_eq_error_iff : readAll offset s = .error e ↔
    ∃ u ps c v, s = u ++ c :: v ∧ readAll offset u = .ok ps ∧ Parted u c ∧
      Stops (offset + byteLength u) c v e := by
  constructor
  · intro h
    obtain ⟨u, ps, c, v, hs, hl, hp, hv⟩ := exists_stops_of_readAll h
    exact ⟨u, ps, c, v, hs, readAll_of_laid hl, hp, hv⟩
  · rintro ⟨u, ps, c, v, rfl, hu, hp, hv⟩
    obtain ⟨-, hw, ho⟩ := hv.classes
    rw [(laid_of_readAll hu).readAll_append (by simpa using ⟨hw, ho, hp⟩), readAll_of_stops hv]
    rfl

theorem tokenize_eq_error_iff_stops {input : String} : tokenize input = .error e ↔
    ∃ (u v : String) (c : Char), input = u ++ String.singleton c ++ v ∧
      (∃ ps, tokenize u = .ok ps) ∧ Parted u.toList c ∧ Stops u.utf8ByteSize c v.toList e := by
  rw [tokenize, readAll_eq_error_iff]
  constructor
  · rintro ⟨u, ps, c, v, hs, hu, hp, hv⟩
    refine ⟨String.ofList u, String.ofList v, c, ?_, ⟨ps, ?_⟩, ?_, ?_⟩
    · rw [← String.toList_inj, hs]
      simp
    · rw [tokenize, String.toList_ofList, hu]
    · rwa [String.toList_ofList]
    · rwa [Text.utf8ByteSize_ofList_eq, String.toList_ofList, ← Nat.zero_add (byteLength u)]
  · rintro ⟨u, v, c, rfl, ⟨ps, hu⟩, hp, hv⟩
    refine ⟨u.toList, ps, c, v.toList, by simp, hu, hp, ?_⟩
    rwa [Nat.zero_add, ← Text.utf8ByteSize_ofList_eq, String.ofList_toList]

/-- A text is not read because of a character that begins no token, or because of a quote without a
closing one, that stands behind a text which is read and does not end in the middle of a literal.
The place of either is the number of bytes before it, and nothing else stops the reading. -/
theorem tokenize_eq_error_iff (input : String) :
    (∀ c p, tokenize input = .error (.strayCharacter c p) ↔
      ∃ u v, input = u ++ String.singleton c ++ v ∧ p = u.utf8ByteSize ∧
        (∃ ps, tokenize u = .ok ps) ∧ IsStray c) ∧
    (∀ p, tokenize input = .error (.unclosedLiteral p) ↔
      ∃ u w, input = u ++ "'" ++ w ∧ p = u.utf8ByteSize ∧ (∃ ps, tokenize u = .ok ps) ∧
        u.toList.getLast? ≠ some Quoted.mark ∧ ∃ text, w.toList = Quoted.encode text) ∧
    ∀ e, tokenize input = .error e →
      (∃ c p, e = .strayCharacter c p) ∨ ∃ p, e = .unclosedLiteral p := by
  refine ⟨fun c p => ?_, fun p => ?_, fun e _ => ?_⟩
  · rw [tokenize_eq_error_iff_stops]
    constructor
    · rintro ⟨u, v, d, hs, hu, -, hv⟩
      cases hv with
      | stray hc => exact ⟨u, v, hs, rfl, hu, hc⟩
    · rintro ⟨u, v, hs, rfl, hu, hc⟩
      refine ⟨u, v, c, hs, hu, ?_, .stray hc⟩
      rintro rfl
      exact absurd hc.2.1 (by decide)
  · rw [tokenize_eq_error_iff_stops]
    constructor
    · rintro ⟨u, w, d, hs, hu, hp, hv⟩
      cases hv with
      | unclosed hw => exact ⟨u, w, hs, rfl, hu, hp rfl, hw⟩
    · rintro ⟨u, w, hs, rfl, hu, hm, hw⟩
      exact ⟨u, w, Quoted.mark, hs, hu, fun _ => hm, .unclosed hw⟩
  · cases e with
    | strayCharacter c p => exact .inl ⟨c, p, rfl⟩
    | unclosedLiteral p => exact .inr ⟨p, rfl⟩

end Token

end ColumnFilter
