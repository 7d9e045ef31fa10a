import ColumnFilter.Scan

/-! # Lines of bytes

A line feed ends a line, and a carriage return before it is part of the end.
Bytes behind the last line feed are a line that nothing ends. Bytes that end in
a line feed are split into lines apart from all that follows them.
-/

namespace ColumnFilter.Scan

/-- A line and the bytes that hold it together with its end. -/
inductive Terminated : List UInt8 → List UInt8 → Prop
  | feed {line : List UInt8} :
      10 ∉ line → line.getLast? ≠ some 13 → Terminated line (line ++ [10])
  | returnFeed {line : List UInt8} : 10 ∉ line → Terminated line (line ++ [13, 10])

/-- The bytes hold one line, with its end or without. -/
inductive Single : List UInt8 → List UInt8 → Prop
  | terminated {line s : List UInt8} : Terminated line s → Single line s
  | bare {line : List UInt8} : 10 ∉ line → line ≠ [] → Single line line

def Closed (s : List UInt8) : Prop := s = [] ∨ s.getLast? = some 10

theorem Terminated.ne_nil {line s : List UInt8} (h : Terminated line s) : s ≠ [] := by
  cases h <;> simp

theorem Terminated.closed {line s : List UInt8} (h : Terminated line s) : Closed s := by
  right
  cases h <;> simp

theorem Terminated.count {line s : List UInt8} (h : Terminated line s) : s.count 10 = 1 := by
  cases h with
  | feed hl _ => simp [List.count_eq_zero.2 hl]
  | returnFeed hl => simp [List.count_eq_zero.2 hl]

theorem Closed.mem_of_ne_nil {a : List UInt8} (ha : Closed a) (hne : a ≠ []) : 10 ∈ a :=
  List.mem_of_getLast? (ha.resolve_left hne)

theorem Closed.append {a b : List UInt8} (ha : Closed a) (hb : Closed b) : Closed (a ++ b) := by
  rcases hb with rfl | hb
  · rwa [List.append_nil]
  · right
    rw [List.getLast?_append, hb, Option.some_or]

theorem Closed.of_append {a b : List UInt8} (h : Closed (a ++ b)) : Closed b := by
  rcases List.eq_nil_or_concat b with rfl | ⟨b, x, rfl⟩
  · exact .inl rfl
  · right
    rcases h with h | h
    · simp at h
    · simpa [← List.append_assoc] using h

theorem lines_cons {b : UInt8} {s : List UInt8} (hb : b ≠ 10) (h : b = 13 → s.head? ≠ some 10) :
    lines (b :: s) = extend b (lines s) := by
  rw [lines, if_neg hb]
  rintro rest rfl rfl
  exact h rfl rfl

theorem lines_cons_feed (s : List UInt8) : lines (10 :: s) = [] :: lines s := by
  rw [lines, if_pos rfl]
  simp

theorem lines_cons_returnFeed (s : List UInt8) : lines (13 :: 10 :: s) = [] :: lines s := by
  rw [lines]

theorem head?_append_ne_feed {line : List UInt8} (hl : 10 ∉ line) (rest : List UInt8)
    (h : line = [] → rest.head? ≠ some 10) : (line ++ rest).head? ≠ some 10 := by
  cases line with
  | nil => exact h rfl
  | cons b line =>
    intro hb
    exact hl (Option.some.inj hb ▸ List.mem_cons_self)

theorem lines_append_of_feed {line : List UInt8} (hl : 10 ∉ line) (hr : line.getLast? ≠ some 13)
    (rest : List UInt8) : lines (line ++ 10 :: rest) = line :: lines rest := by
  induction line with
  | nil => exact lines_cons_feed rest
  | cons b line ih =>
    rw [List.mem_cons, not_or] at hl
    -- A carriage return in front of the line feed would have to be the last byte of the line.
    have hh : b = 13 → (line ++ 10 :: rest).head? ≠ some 10 := by
      rintro rfl
      exact head?_append_ne_feed hl.2 _ fun hn => absurd (by rw [hn]; rfl) hr
    have hr' : line.getLast? ≠ some 13 := by
      cases line with
      | nil => simp
      | cons x line => exact hr
    rw [List.cons_append, lines_cons (Ne.symm hl.1) hh, ih hl.2 hr']
    rfl

theorem lines_append_of_returnFeed {line : List UInt8} (hl : 10 ∉ line) (rest : List UInt8) :
    lines (line ++ 13 :: 10 :: rest) = line :: lines rest := by
  induction line with
  | nil => exact lines_cons_returnFeed rest
  | cons b line ih =>
    rw [List.mem_cons, not_or] at hl
    have hh := head?_append_ne_feed hl.2 (13 :: 10 :: rest) fun _ => by simp
    rw [List.cons_append, lines_cons (Ne.symm hl.1) fun _ => hh, ih hl.2]
    rfl

theorem Terminated.lines_append {line s : List UInt8} (h : Terminated line s)
    (rest : List UInt8) : lines (s ++ rest) = line :: lines rest := by
  cases h with
  | feed hl hr =>
    rw [List.append_assoc, List.singleton_append, lines_append_of_feed hl hr]
  | returnFeed hl =>
    rw [List.append_assoc, List.cons_append, List.singleton_append, lines_append_of_returnFeed hl]

theorem lines_of_bare {line : List UInt8} (hl : 10 ∉ line) (hne : line ≠ []) :
    lines line = [line] := by
  induction line with
  | nil => exact absurd rfl hne
  | cons b line ih =>
    rw [List.mem_cons, not_or] at hl
    have hh := head?_append_ne_feed hl.2 [] fun _ => by simp
    rw [List.append_nil] at hh
    rw [lines_cons (Ne.symm hl.1) fun _ => hh]
    cases line with
    | nil => rfl
    | cons x line =>
      rw [ih hl.2 (List.cons_ne_nil _ _)]
      rfl

theorem Single.lines_eq {line s : List UInt8} (h : Single line s) : lines s = [line] := by
  cases h with
  | terminated h => simpa [lines] using h.lines_append []
  | bare hl hne => exact lines_of_bare hl hne

theorem exists_terminated {s : List UInt8} (h : 10 ∈ s) :
    ∃ line t rest, Terminated line t ∧ s = t ++ rest := by
  obtain ⟨line, rest, rfl, hl⟩ := List.eq_append_cons_of_mem h
  by_cases hr : line.getLast? = some 13
  · obtain ⟨line, rfl⟩ := List.getLast?_eq_some_iff.1 hr
    refine ⟨line, line ++ [13, 10], rest, .returnFeed fun h => hl (List.mem_append_left _ h), ?_⟩
    simp
  · exact ⟨line, line ++ [10], rest, .feed hl hr, by simp⟩

/-- Bytes are taken apart line by line. -/
@[elab_as_elim]
theorem lines_induction {P : List UInt8 → Prop} (nil : P [])
    (bare : ∀ line, 10 ∉ line → line ≠ [] → P line)
    (terminated : ∀ line t rest, Terminated line t → P rest → P (t ++ rest)) (s : List UInt8) :
    P s := by
  by_cases hs : s = []
  · exact hs ▸ nil
  by_cases h : 10 ∈ s
  · obtain ⟨line, t, rest, ht, hst⟩ := exists_terminated h
    have hlt : rest.length < s.length := by
      have := List.length_pos_iff.2 ht.ne_nil
      rw [hst, List.length_append]
      omega
    exact hst ▸ terminated line t rest ht (lines_induction nil bare terminated rest)
  · exact bare s h hs
termination_by s.length

theorem lines_append {a : List UInt8} (ha : Closed a) (b : List UInt8) :
    lines (a ++ b) = lines a ++ lines b := by
  induction a using lines_induction with
  | nil => rfl
  | bare line hl hne => exact absurd (ha.mem_of_ne_nil hne) hl
  | terminated line t rest ht ih =>
    rw [List.append_assoc, ht.lines_append, ht.lines_append, ih ha.of_append, List.cons_append]

theorem length_lines {a : List UInt8} (ha : Closed a) : (lines a).length = a.count 10 := by
  induction a using lines_induction with
  | nil => rfl
  | bare line hl hne => exact absurd (ha.mem_of_ne_nil hne) hl
  | terminated line t rest ht ih =>
    rw [ht.lines_append, List.length_cons, ih ha.of_append, List.count_append, ht.count,
      Nat.add_comm]

end ColumnFilter.Scan
