import ColumnFilter.Proofs.Timestamp.Agreement

/-! # What a text may be read as

An integer has nothing but digits behind its first character, and a timestamp
has a minus there, so no text is both. No two readers give two timestamps. One
value at most comes of a text, and it is found in whatever order the readers are
tried.
-/

namespace ColumnFilter

namespace Timestamp

variable {s : List Char} {t u : Timestamp} {read read' : List Char → Option Timestamp}

theorem eq_of_readers (hr : read ∈ readers) (hr' : read' ∈ readers) (h : read s = some t)
    (h' : read' s = some u) : t = u := by
  obtain ⟨f, hf, ht⟩ := exists_reads_of_mem_readers hr h
  obtain ⟨g, hg, hu⟩ := exists_reads_of_mem_readers hr' h'
  rw [hf.unique hg] at ht
  exact Option.some.inj (ht.symm.trans hu)

theorem eq_none_of_isSome_ofText? (h : (Numeral.ofText? s).isSome) (hr : read ∈ readers) :
    read s = none := by
  obtain ⟨n, hn⟩ := Option.isSome_iff_exists.1 h
  rw [Option.eq_none_iff_forall_ne_some]
  intro t ht
  obtain ⟨f, hf, -⟩ := exists_reads_of_mem_readers hr ht
  exact absurd (Numeral.digits_tail_of_ofText? hn '-' hf.minus_mem_tail) (by decide)

end Timestamp

namespace Cell

/-- What is tried on a text without the blanks around it, in this order. -/
def attempts : List (List Char → Option Cell) :=
  (fun s => (Numeral.ofText? s).map integer) ::
    Timestamp.readers.map fun read s => (read s).map time

def ofTextBy (attempts : List (List Char → Option Cell)) (raw : String) : Cell :=
  (attempts.findSome? (· (Text.trim raw.toList))).getD (text raw)

theorem ofTextBy_attempts (raw : String) : ofTextBy attempts raw = ofText raw := by
  have ht (s : List Char) :
      (Timestamp.readers.map fun read s => (read s).map time).findSome? (· s) =
        (Timestamp.ofText? s).map time := by
    rw [List.findSome?_map, Timestamp.ofText?, List.map_findSome?]
    rfl
  rw [ofTextBy, attempts, List.findSome?_cons, ht]
  simp only [ofText]
  cases Numeral.ofText? (Text.trim raw.toList) with
  | some n => rfl
  | none => cases Timestamp.ofText? (Text.trim raw.toList) <;> rfl

theorem eq_of_attempts {attempt attempt' : List Char → Option Cell} {s : List Char} {x y : Cell}
    (ha : attempt ∈ attempts) (ha' : attempt' ∈ attempts) (h : attempt s = some x)
    (h' : attempt' s = some y) : x = y := by
  have hne {n : Numeral} {read} {t : Timestamp} (hn : Numeral.ofText? s = some n)
      (hr : read ∈ Timestamp.readers) : read s ≠ some t := by
    rw [Timestamp.eq_none_of_isSome_ofText? (Option.isSome_of_eq_some hn) hr]
    nofun
  rcases List.mem_cons.1 ha with rfl | ha
  · obtain ⟨n, hn, rfl⟩ := Option.map_eq_some_iff.1 h
    rcases List.mem_cons.1 ha' with rfl | ha'
    · exact Option.some.inj (h.symm.trans h')
    · obtain ⟨read, hr, rfl⟩ := List.mem_map.1 ha'
      obtain ⟨t, ht, -⟩ := Option.map_eq_some_iff.1 h'
      exact absurd ht (hne hn hr)
  · obtain ⟨read, hr, rfl⟩ := List.mem_map.1 ha
    obtain ⟨t, ht, rfl⟩ := Option.map_eq_some_iff.1 h
    rcases List.mem_cons.1 ha' with rfl | ha'
    · obtain ⟨n, hn, -⟩ := Option.map_eq_some_iff.1 h'
      exact absurd ht (hne hn hr)
    · obtain ⟨read', hr', rfl⟩ := List.mem_map.1 ha'
      obtain ⟨u, hu, rfl⟩ := Option.map_eq_some_iff.1 h'
      rw [Timestamp.eq_of_readers hr hr' ht hu]

theorem findSome?_eq_of_perm {α β : Type} {f : α → Option β} {l l' : List α} (hl : l.Perm l')
    (h : ∀ a ∈ l', ∀ b ∈ l', ∀ x y, f a = some x → f b = some y → x = y) :
    l.findSome? f = l'.findSome? f := by
  cases hs : l'.findSome? f with
  | none =>
    rw [List.findSome?_eq_none_iff] at hs ⊢
    exact fun a ha => hs a (hl.mem_iff.1 ha)
  | some y =>
    obtain ⟨b, hb, hy⟩ := List.exists_of_findSome?_eq_some hs
    refine Timestamp.findSome?_eq_of_forall (fun a ha => ?_) ⟨b, hl.mem_iff.2 hb, hy⟩
    cases hx : f a with
    | none => exact .inl rfl
    | some x => exact .inr (congrArg some (h a (hl.mem_iff.1 ha) b hb x y hx hy))

/-- No reader takes an integer for a timestamp, and two readers that take a text for a timestamp
take it for the same one. So the readers and the attempts may be made in any order. -/
theorem attempts_unambiguous :
    (∀ s, (Numeral.ofText? s).isSome → ∀ read ∈ Timestamp.readers, read s = none) ∧
      (∀ s, ∀ read ∈ Timestamp.readers, ∀ read' ∈ Timestamp.readers, ∀ t u,
        read s = some t → read' s = some u → t = u) ∧
      (∀ l : List (List Char → Option Timestamp), l.Perm Timestamp.readers →
        ∀ s, l.findSome? (· s) = Timestamp.ofText? s) ∧
      ∀ l : List (List Char → Option Cell), l.Perm attempts →
        ∀ raw, ofTextBy l raw = ofText raw := by
  refine ⟨fun s h read hr => ?_, fun s read hr read' hr' t u h h' => ?_, fun l hl s => ?_,
    fun l hl raw => ?_⟩
  · exact Timestamp.eq_none_of_isSome_ofText? h hr
  · exact Timestamp.eq_of_readers hr hr' h h'
  · exact findSome?_eq_of_perm hl fun read hr read' hr' t u h h' =>
      Timestamp.eq_of_readers hr hr' h h'
  · rw [← ofTextBy_attempts, ofTextBy, ofTextBy, findSome?_eq_of_perm hl]
    exact fun attempt ha attempt' ha' x y h h' => eq_of_attempts ha ha' h h'

/-- A text that two readers take, and an integer with a minus, tried from the last to the first. -/
theorem attempts_unambiguous_reverse :
    (Timestamp.readers.filter fun read =>
        (read "2018-04-04 07:10:60.5+00:30".toList).isSome).length = 2 ∧
      ofTextBy attempts.reverse " 2018-04-04 07:10:60.5+00:30\n" =
        .time ⟨1522824059, 1500000000, 1800⟩ ∧
      ofTextBy attempts.reverse "-07" = .integer ⟨true, ['7']⟩ := by
  have h := attempts_unambiguous.2.2.2 attempts.reverse (List.reverse_perm attempts)
  refine ⟨by decide +kernel, (h _).trans (by decide +kernel), (h _).trans (by decide +kernel)⟩

end Cell

end ColumnFilter
