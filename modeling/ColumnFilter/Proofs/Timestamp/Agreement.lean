import ColumnFilter.Proofs.Cell.Order
import ColumnFilter.Proofs.Timestamp.Written

/-! # Readers that agree

A text fits one of the lenient layouts at most: where a `T` is expected the time
does not begin, and behind the minute stands a colon or the offset. What the
strict reader takes is read alike by a lenient one or refused. So no two readers
give two timestamps, and the order in which they are tried does not matter.
-/

namespace ColumnFilter.Timestamp

open Text

def readDate (s : List Char) : Option ((ℤ × ℕ × ℕ) × List Char) := do
  let (year, s) ← readYear (trimStart s)
  let s ← expect '-' s
  let (month, s) ← readShort s
  let s ← expect '-' s
  let (day, s) ← readShort s
  some ((year, month, day), s)

def readClock (separator : Option Char) (s : List Char) : Option ((ℕ × ℕ) × List Char) := do
  let s ← match separator with
    | some c => expect c s
    | none => some s
  let (hour, s) ← readShort s
  let s ← expect ':' s
  let (minute, s) ← readShort s
  some ((hour, minute), s)

def readEnd (seconds : Bool) (s : List Char) : Option ((ℕ × ℕ) × ℤ) := do
  let (second, nanosecond, s) ←
    if seconds then do
      let s ← expect ':' s
      let (second, s) ← readShort s
      let (nanosecond, s) ← readFraction s
      some (second, nanosecond, s)
    else some (0, 0, s)
  let (offset, s) ← readOffset skipColons (trimStart s)
  if s = [] then some ((second, nanosecond), offset) else none

theorem bind_eq_bind_bind {α β γ : Type} {x : Option α} {f : α → Option γ} {g : α → Option β}
    {k : β → Option γ} (h : ∀ a, f a = g a >>= k) : x >>= f = (x >>= g) >>= k := by
  cases x with
  | none => rfl
  | some a => exact h a

theorem Layout.read_eq_bind (l : Layout) (s : List Char) : l.read s = (do
    let ((year, month, day), s) ← readDate s
    let ((hour, minute), s) ← readClock l.separator s
    let ((second, nanosecond), offset) ← readEnd l.seconds s
    some ⟨year, month, day, hour, minute, second, nanosecond, offset⟩) := by
  refine bind_eq_bind_bind fun (year, s) => ?_
  refine bind_eq_bind_bind fun s => ?_
  refine bind_eq_bind_bind fun (month, s) => ?_
  refine bind_eq_bind_bind fun s => ?_
  refine bind_eq_bind_bind fun (day, s) => ?_
  obtain ⟨separator, seconds⟩ := l
  -- Which steps come next depends on the separator, and which come last on the seconds.
  cases separator <;> cases seconds <;>
    refine bind_eq_bind_bind fun s => bind_eq_bind_bind fun (hour, s) =>
      bind_eq_bind_bind fun s => bind_eq_bind_bind fun (minute, s) => ?_
  case none.false | some.false =>
    refine bind_eq_bind_bind fun (second, nanosecond, s) => ?_
    refine bind_eq_bind_bind fun (offset, s) => ?_
    cases s <;> rfl
  case none.true | some.true =>
    refine bind_eq_bind_bind fun s => ?_
    refine bind_eq_bind_bind fun (second, s) => ?_
    refine bind_eq_bind_bind fun (nanosecond, s) => ?_
    refine bind_eq_bind_bind fun (second, nanosecond, s) => ?_
    refine bind_eq_bind_bind fun (offset, s) => ?_
    cases s <;> rfl

variable {n least most : ℕ} {s rest : List Char} {f g : Fields} {l l' : Layout}

theorem Fields.eq_of_parts (hd : (f.year, f.month, f.day) = (g.year, g.month, g.day))
    (hc : (f.hour, f.minute) = (g.hour, g.minute))
    (he : ((f.second, f.nanosecond), f.offset) = ((g.second, g.nanosecond), g.offset)) : f = g := by
  cases f
  cases g
  simp_all

theorem Layout.exists_parts (h : l.read s = some f) :
    ∃ u v, readDate s = some ((f.year, f.month, f.day), u) ∧
      readClock l.separator u = some ((f.hour, f.minute), v) ∧
      readEnd l.seconds v = some ((f.second, f.nanosecond), f.offset) := by
  rw [l.read_eq_bind] at h
  obtain ⟨⟨⟨year, month, day⟩, u⟩, hd, h⟩ := Option.bind_eq_some_iff.1 h
  obtain ⟨⟨⟨hour, minute⟩, v⟩, hc, h⟩ := Option.bind_eq_some_iff.1 h
  obtain ⟨⟨⟨second, nanosecond⟩, offset⟩, he, h⟩ := Option.bind_eq_some_iff.1 h
  cases h
  exact ⟨u, v, hd, hc, he⟩

section Numbers

theorem readNumber_of_le {k : ℕ} (hk : k ≤ least) (h : readNumber least most s = some (n, rest)) :
    readNumber k most s = some (n, rest) := by
  rw [readNumber, Option.ite_none_right_eq_some] at h
  rw [readNumber, if_pos (hk.trans h.1)]
  exact h.2

theorem exists_cons_of_readNumber (hl : least ≠ 0) (h : readNumber least most s = some (n, rest)) :
    ∃ c t, s = c :: t ∧ c.isDigit = true := by
  by_contra hs
  have he : Ends Char.isDigit s := by
    cases s with
    | nil => exact ends_nil _
    | cons c t =>
      refine ends_cons.2 ?_
      by_contra hc
      exact hs ⟨c, t, rfl, eq_true_of_ne_false hc⟩
  rw [readNumber_of_ends he hl] at h
  cases h

theorem trimStart_of_readNumber (hl : least ≠ 0) (h : readNumber least most s = some (n, rest)) :
    trimStart s = s := by
  obtain ⟨c, t, rfl, hc⟩ := exists_cons_of_readNumber hl h
  exact trimStart_of_ends (ends_cons.2 (not_isBlank_of_isDigit hc))

theorem readShort_of_readNumber (h : readNumber 2 2 s = some (n, rest)) :
    readShort s = some (n, rest) := by
  rw [readShort, trimStart_of_readNumber (by decide) h]
  exact readNumber_of_le (by decide) h

theorem readYear_of_readNumber (h : readNumber 4 4 s = some (n, rest)) :
    readYear (trimStart s) = some ((n : ℤ), rest) := by
  have hy := readNumber_of_le (k := 1) (by decide) h
  rw [trimStart_of_readNumber (by decide) h]
  obtain ⟨c, t, rfl, hc⟩ := exists_cons_of_readNumber (by decide) h
  rw [readYear_of_isDigit hc, hy]
  rfl

end Numbers

section Offsets

variable {x : ℤ}

theorem ends_of_readSign (h : readSign s = some (x, rest)) : Ends isBlank s := by
  unfold readSign at h
  split at h
  · exact ends_cons.2 (by decide)
  · exact ends_cons.2 (by decide)
  · exact ends_cons.2 (by decide)
  · cases h

theorem not_isColon_of_isDigit {c : Char} (h : c.isDigit = true) :
    ¬ (c == ':' || isBlank c) = true := by
  rw [not_isBlank_of_isDigit h, Bool.or_false, beq_iff_eq]
  rintro rfl
  exact absurd h (by decide)

theorem readOffset_skipColons_of_expect (h : readOffset (expect ':') s = some (x, rest)) :
    readOffset skipColons (trimStart s) = some (x, rest) := by
  simp only [readOffset, Option.bind_eq_bind, Option.bind_eq_some_iff, Prod.exists] at h
  obtain ⟨sign, s₁, hs, hours, s₂, hh, s₃, hc, minutes, s₄, hm, h⟩ := h
  have hk : skipColons s₂ = some s₃ := by
    obtain ⟨c, t, rfl, hd⟩ := exists_cons_of_readNumber (by decide) hm
    rw [expect_eq_some_iff.1 hc, skipColons, List.dropWhile_cons, if_pos (by decide),
      List.dropWhile_cons, if_neg (not_isColon_of_isDigit hd)]
  rw [trimStart_of_ends (ends_of_readSign hs)]
  refine (bind_of_eq_some hs _).trans ?_
  refine (bind_of_eq_some hh _).trans ?_
  refine (bind_of_eq_some hk _).trans ?_
  exact (bind_of_eq_some hm _).trans h

theorem readOffset_of_readZone (h : readZone s = some (x, rest)) :
    readOffset skipColons (trimStart s) = none ∨
      readOffset skipColons (trimStart s) = some (x, rest) := by
  unfold readZone at h
  split at h
  · exact .inl rfl
  · exact .inl rfl
  · exact .inr (readOffset_skipColons_of_expect h)

end Offsets

section Parts

theorem separator_of_mem_layouts (h : l ∈ layouts) :
    l.separator = none ∨ l.separator = some 'T' := by
  simp only [layouts, List.mem_cons, List.not_mem_nil, or_false] at h
  rcases h with rfl | rfl | rfl | rfl <;> simp

/-- A layout takes what the strict reader takes between date and time, or refuses it. -/
theorem readClock_cons (hl : l ∈ layouts) {c : Char} (hc : c ∈ ['T', 't', ' ']) (s : List Char) :
    readClock l.separator (c :: s) = none ∨
      readClock l.separator (c :: s) = readClock none s := by
  simp only [List.mem_cons, List.not_mem_nil, or_false] at hc
  rcases separator_of_mem_layouts hl with h | h <;> rw [h] <;> rcases hc with rfl | rfl | rfl
  · exact .inl rfl
  · exact .inl rfl
  · exact .inr rfl
  · exact .inr rfl
  · exact .inl rfl
  · exact .inl rfl

theorem readClock_none_of_T {x : (ℕ × ℕ) × List Char} (h : readClock (some 'T') s = some x) :
    readClock none s = none := by
  obtain ⟨t, ht, -⟩ := Option.bind_eq_some_iff.1 h
  rw [expect_eq_some_iff.1 ht]
  rfl

theorem readEnd_colon (s : List Char) : readEnd false (':' :: s) = none := rfl

theorem readEnd_of_seconds {x : (ℕ × ℕ) × ℤ} (h : readEnd true s = some x) :
    readEnd false s = none := by
  obtain ⟨t, ht, -⟩ := Option.bind_eq_some_iff.1 h
  rw [expect_eq_some_iff.1 ht, readEnd_colon]

theorem separator_eq_of_readClock {a b : Option Char} (ha : a = none ∨ a = some 'T')
    (hb : b = none ∨ b = some 'T') {x y : (ℕ × ℕ) × List Char} (h : readClock a s = some x)
    (h' : readClock b s = some y) : a = b := by
  rcases ha with rfl | rfl <;> rcases hb with rfl | rfl
  · rfl
  · cases (readClock_none_of_T h').symm.trans h
  · cases (readClock_none_of_T h).symm.trans h'
  · rfl

theorem seconds_eq_of_readEnd {a b : Bool} {x y : (ℕ × ℕ) × ℤ} (h : readEnd a s = some x)
    (h' : readEnd b s = some y) : a = b := by
  cases a <;> cases b
  · rfl
  · cases (readEnd_of_seconds h').symm.trans h
  · cases (readEnd_of_seconds h).symm.trans h'
  · rfl

end Parts

/-- No text fits two of the lenient layouts. -/
theorem Layout.eq_of_read (hl : l ∈ layouts) (hl' : l' ∈ layouts) (h : l.read s = some f)
    (h' : l'.read s = some g) : l = l' := by
  obtain ⟨u, v, hd, hc, he⟩ := l.exists_parts h
  obtain ⟨u', v', hd', hc', he'⟩ := l'.exists_parts h'
  obtain ⟨-, rfl⟩ := Prod.mk.inj (Option.some.inj (hd.symm.trans hd'))
  have hs := separator_eq_of_readClock (separator_of_mem_layouts hl) (separator_of_mem_layouts hl')
    hc hc'
  rw [hs] at hc
  obtain ⟨-, rfl⟩ := Prod.mk.inj (Option.some.inj (hc.symm.trans hc'))
  obtain ⟨a, i⟩ := l
  obtain ⟨b, j⟩ := l'
  exact congrArg₂ Layout.mk hs (seconds_eq_of_readEnd he he')

/-- What the strict reader takes has the parts of a lenient layout, with a single character between
date and time, a colon behind the minute and perhaps another way to write the offset. -/
theorem readStrict_parts (h : readStrict s = some f) :
    ∃ c u v w x, c ∈ ['T', 't', ' '] ∧ readDate s = some ((f.year, f.month, f.day), c :: u) ∧
      readClock none u = some ((f.hour, f.minute), ':' :: v) ∧
      readShort v = some (f.second, w) ∧ readFraction w = some (f.nanosecond, x) ∧
      readZone x = some (f.offset, []) := by
  -- Every step has come through, with what it has left to the next one.
  obtain ⟨⟨year, s₁⟩, hy, h⟩ := Option.bind_eq_some_iff.1 h
  obtain ⟨s₂, h₂, h⟩ := Option.bind_eq_some_iff.1 h
  obtain ⟨⟨month, s₃⟩, hm, h⟩ := Option.bind_eq_some_iff.1 h
  obtain ⟨s₄, h₄, h⟩ := Option.bind_eq_some_iff.1 h
  obtain ⟨⟨day, s₅⟩, hd, h⟩ := Option.bind_eq_some_iff.1 h
  obtain ⟨s₆, h₆, h⟩ := Option.bind_eq_some_iff.1 h
  obtain ⟨⟨hour, s₇⟩, hh, h⟩ := Option.bind_eq_some_iff.1 h
  obtain ⟨s₈, h₈, h⟩ := Option.bind_eq_some_iff.1 h
  obtain ⟨⟨minute, s₉⟩, hmi, h⟩ := Option.bind_eq_some_iff.1 h
  obtain ⟨t, ht, h⟩ := Option.bind_eq_some_iff.1 h
  obtain ⟨⟨second, t₁⟩, hs, h⟩ := Option.bind_eq_some_iff.1 h
  obtain ⟨⟨nanosecond, t₂⟩, hf, h⟩ := Option.bind_eq_some_iff.1 h
  obtain ⟨⟨offset, t₃⟩, ho, h⟩ := Option.bind_eq_some_iff.1 h
  obtain ⟨rfl, he⟩ := Option.ite_none_right_eq_some.1 h
  obtain rfl := expect_eq_some_iff.1 ht
  obtain ⟨c, hc, rfl⟩ : ∃ c ∈ ['T', 't', ' '], s₅ = c :: s₆ := by
    simp only [Option.orElse_eq_some, expect_eq_some_iff] at h₆
    rcases h₆ with hc | ⟨-, hc | ⟨-, hc⟩⟩
    · exact ⟨'T', by decide, hc⟩
    · exact ⟨'t', by decide, hc⟩
    · exact ⟨' ', by decide, hc⟩
  cases he
  refine ⟨c, s₆, t, t₁, t₂, hc, ?_, ?_, readShort_of_readNumber hs, hf, ho⟩
  · refine (bind_of_eq_some (readYear_of_readNumber hy) _).trans ?_
    refine (bind_of_eq_some h₂ _).trans ?_
    refine (bind_of_eq_some (readShort_of_readNumber hm) _).trans ?_
    refine (bind_of_eq_some h₄ _).trans ?_
    exact bind_of_eq_some (readShort_of_readNumber hd) _
  · refine (bind_of_eq_some (readShort_of_readNumber hh) _).trans ?_
    refine (bind_of_eq_some h₈ _).trans ?_
    exact bind_of_eq_some (readShort_of_readNumber hmi) _

theorem readEnd_of_readZone {v w x : List Char} {second nanosecond : ℕ} {offset : ℤ}
    (hs : readShort v = some (second, w)) (hf : readFraction w = some (nanosecond, x))
    (ho : readZone x = some (offset, [])) : readEnd true (':' :: v) = none ∨
      readEnd true (':' :: v) = some ((second, nanosecond), offset) := by
  have he : readEnd true (':' :: v) = readOffset skipColons (trimStart x) >>= fun (offset, s) =>
      if s = [] then some ((second, nanosecond), offset) else none := by
    refine (bind_of_eq_some hs _).trans ?_
    exact bind_of_eq_some hf _
  rw [he]
  rcases readOffset_of_readZone ho with ho | ho
  · rw [ho]
    exact .inl rfl
  · rw [ho]
    exact .inr rfl

/-- A lenient layout reads what the strict reader takes as it does, or refuses it. -/
theorem Layout.eq_of_readStrict (hl : l ∈ layouts) (h : readStrict s = some f)
    (h' : l.read s = some g) : f = g := by
  obtain ⟨c, u, v, w, x, hc, hd, hm, hs, hf, ho⟩ := readStrict_parts h
  obtain ⟨u', v', hd', hm', he'⟩ := l.exists_parts h'
  obtain ⟨hdate, rfl⟩ := Prod.mk.inj (Option.some.inj (hd.symm.trans hd'))
  have hm'' : readClock l.separator (c :: u) = some ((f.hour, f.minute), ':' :: v) := by
    rcases readClock_cons hl hc u with hn | hn
    · cases hn.symm.trans hm'
    · rw [hn, hm]
  obtain ⟨hclock, rfl⟩ := Prod.mk.inj (Option.some.inj (hm''.symm.trans hm'))
  have hsec : l.seconds = true := by
    cases hs : l.seconds with
    | true => rfl
    | false =>
      rw [hs, readEnd_colon] at he'
      cases he'
  rw [hsec] at he'
  have hend : readEnd true (':' :: v) = some ((f.second, f.nanosecond), f.offset) := by
    rcases readEnd_of_readZone hs hf ho with hn | hn
    · cases hn.symm.trans he'
    · exact hn
  exact Fields.eq_of_parts hdate hclock (Option.some.inj (hend.symm.trans he'))

theorem Reads.unique (h : Reads s f) (h' : Reads s g) : f = g := by
  rcases h with h | ⟨l, hl, h⟩
  · rcases h' with h' | ⟨l', hl', h'⟩
    · exact Option.some.inj (h.symm.trans h')
    · exact Layout.eq_of_readStrict hl' h h'
  · rcases h' with h' | ⟨l', hl', h'⟩
    · exact (Layout.eq_of_readStrict hl h' h).symm
    · obtain rfl := Layout.eq_of_read hl hl' h h'
      exact Option.some.inj (h.symm.trans h')

section Years

theorem subset_tail_of_readNumber (hl : least ≠ 0)
    (h : readNumber least most s = some (n, rest)) : rest ⊆ s.tail := by
  obtain ⟨c, t, rfl, -⟩ := exists_cons_of_readNumber hl h
  rw [readNumber, Option.ite_none_right_eq_some] at h
  obtain ⟨hlen, h⟩ := h
  cases h
  obtain ⟨k, hk⟩ := Nat.exists_eq_add_of_le' ((Nat.pos_of_ne_zero hl).trans_le hlen)
  rw [hk, List.drop_succ_cons]
  exact List.drop_subset _ _

theorem subset_tail_of_readYear {y : ℤ} (h : readYear s = some (y, rest)) : rest ⊆ s.tail := by
  unfold readYear at h
  split at h
  · obtain ⟨⟨n, t⟩, hn, h⟩ := Option.map_eq_some_iff.1 h
    cases h
    exact List.Subset.trans (subset_tail_of_readNumber (by decide) hn) (List.tail_subset _)
  · obtain ⟨⟨n, t⟩, hn, h⟩ := Option.map_eq_some_iff.1 h
    cases h
    exact List.Subset.trans (subset_tail_of_readNumber (by decide) hn) (List.tail_subset _)
  · obtain ⟨⟨n, t⟩, hn, h⟩ := Option.map_eq_some_iff.1 h
    cases h
    exact subset_tail_of_readNumber (by decide) hn

theorem tail_trimStart_subset (s : List Char) : (trimStart s).tail ⊆ s.tail := by
  obtain ⟨u, -, hs⟩ := exists_eq_append_trimStart s
  cases u with
  | nil =>
    rw [← List.nil_append (trimStart s), ← hs]
    exact List.Subset.refl _
  | cons c u =>
    rw [congrArg List.tail hs, List.cons_append, List.tail_cons]
    exact List.Subset.trans (List.tail_subset _) (List.subset_append_right u _)

theorem minus_mem_tail_of_readDate {d : ℤ × ℕ × ℕ} (h : readDate s = some (d, rest)) :
    '-' ∈ s.tail := by
  obtain ⟨⟨year, t⟩, hy, h⟩ := Option.bind_eq_some_iff.1 h
  obtain ⟨u, hu, -⟩ := Option.bind_eq_some_iff.1 h
  have ht : '-' ∈ t := expect_eq_some_iff.1 hu ▸ List.mem_cons_self
  exact tail_trimStart_subset s (subset_tail_of_readYear hy ht)

theorem Reads.minus_mem_tail (h : Reads s f) : '-' ∈ s.tail := by
  rcases h with h | ⟨l, -, h⟩
  · obtain ⟨c, u, v, w, x, -, hd, -⟩ := readStrict_parts h
    exact minus_mem_tail_of_readDate hd
  · obtain ⟨u, v, hd, -⟩ := l.exists_parts h
    exact minus_mem_tail_of_readDate hd

end Years

end ColumnFilter.Timestamp
