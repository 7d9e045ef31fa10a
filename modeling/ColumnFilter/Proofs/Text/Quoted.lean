import ColumnFilter.Text.Quoted

/-! # Literals read back

The closing quote of a literal is the first quote that no other quote follows,
so reading undoes writing and accepts nothing but what writing gives.
-/

namespace ColumnFilter.Text.Quoted

@[simp] theorem encode_nil : encode [] = [] := rfl

theorem encode_cons (c : Char) (s : List Char) :
    encode (c :: s) = (if c = mark then [mark, mark] else [c]) ++ encode s := by
  rw [encode]
  split <;> rfl

theorem write_append (s t : List Char) : write s ++ t = mark :: (encode s ++ mark :: t) := by
  simp [write]

theorem read_mark_mark (s : List Char) :
    read (mark :: mark :: s) = (read s).map fun (text, after) => (mark :: text, after) := by
  rw [mark, read]
  rfl

theorem read_mark {s : List Char} (h : s.head? ≠ some mark) : read (mark :: s) = some ([], s) := by
  rw [read, if_pos rfl]
  rintro rest - rfl
  exact h rfl

theorem read_cons {c : Char} (h : c ≠ mark) (s : List Char) :
    read (c :: s) = (read s).map fun (text, after) => (c :: text, after) := by
  rw [read, if_neg h]
  rintro rest rfl -
  exact h rfl

theorem read_encode_append {rest : List Char} (h : rest.head? ≠ some mark) :
    ∀ s : List Char, read (encode s ++ mark :: rest) = some (s, rest)
  | [] => by rw [encode_nil, List.nil_append, read_mark h]
  | c :: s => by
    rw [encode_cons]
    split
    · next hc =>
      subst hc
      simp [read_mark_mark, read_encode_append h s]
    · next hc => simp [read_cons hc, read_encode_append h s]

theorem eq_encode_append_of_read {s text rest : List Char} (h : read s = some (text, rest)) :
    s = encode text ++ mark :: rest ∧ rest.head? ≠ some mark := by
  fun_induction read s generalizing text with
  | case1 => simp at h
  | case2 s ih =>
    obtain ⟨⟨t, r⟩, hr, he⟩ := Option.map_eq_some_iff.1 h
    obtain ⟨rfl, rfl⟩ := Prod.mk.inj he
    obtain ⟨rfl, hm⟩ := ih hr
    exact ⟨by rw [encode_cons, if_pos rfl]; rfl, hm⟩
  | case3 s hs =>
    obtain ⟨rfl, rfl⟩ := Prod.mk.inj (Option.some.inj h)
    refine ⟨rfl, fun hm => ?_⟩
    obtain ⟨r, rfl⟩ := List.head?_eq_some_iff.1 hm
    exact hs r rfl rfl
  | case4 c s _ hc ih =>
    obtain ⟨⟨t, r⟩, hr, he⟩ := Option.map_eq_some_iff.1 h
    obtain ⟨rfl, rfl⟩ := Prod.mk.inj he
    obtain ⟨rfl, hm⟩ := ih hr
    exact ⟨by rw [encode_cons, if_neg hc]; rfl, hm⟩

/-- Reading accepts exactly what is written, up to a quote that no other quote follows. -/
theorem read_eq_some_iff {s text rest : List Char} :
    read s = some (text, rest) ↔ s = encode text ++ mark :: rest ∧ rest.head? ≠ some mark := by
  constructor
  · exact eq_encode_append_of_read
  · rintro ⟨rfl, h⟩
    exact read_encode_append h text

theorem read_eq_none_iff {s : List Char} : read s = none ↔ ∃ text, s = encode text := by
  constructor
  · intro h
    fun_induction read s with
    | case1 => exact ⟨[], rfl⟩
    | case2 s ih =>
      obtain ⟨text, rfl⟩ := ih (Option.map_eq_none_iff.1 h)
      exact ⟨mark :: text, by rw [encode_cons, if_pos rfl]; rfl⟩
    | case3 => cases h
    | case4 c s _ hc ih =>
      obtain ⟨text, rfl⟩ := ih (Option.map_eq_none_iff.1 h)
      exact ⟨c :: text, by rw [encode_cons, if_neg hc]; rfl⟩
  · rintro ⟨text, rfl⟩
    induction text with
    | nil => rw [encode_nil, read]
    | cons c text ih =>
      rw [encode_cons]
      split
      · simp [read_mark_mark, ih]
      · next hc => simp [read_cons hc, ih]

end ColumnFilter.Text.Quoted
