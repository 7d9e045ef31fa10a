import ColumnFilter.Json.Printer
import ColumnFilter.Json.Reader
import ColumnFilter.Proofs.Json.Text
import ColumnFilter.Proofs.Text.Digits
import ColumnFilter.Proofs.Text.Runs

/-! # Values of JSON read back

The members of an object are read one after the other, each value up to the
comma or the brace that follows it. So an object on one line is read back if its
values are. A text of blanks alone is no value.
-/

namespace ColumnFilter.Json

variable {α : Type} {item : Reader α} {write : α → List Char} {ms : List (String × α)}

/-- A text is read as a value, up to the comma or the brace behind it. -/
def ReadsAs (item : Reader α) (text : List Char) (v : α) : Prop :=
  ∀ c rest, c = ',' ∨ c = '\x7d' → item (text ++ c :: rest) = .ok (v, c :: rest)

def memberRest (write : α → List Char) (m : String × α) : List Char :=
  m.1.toList.flatMap escapeChar ++ '"' :: ':' :: write m.2

def laterMembers (write : α → List Char) (ms : List (String × α)) : List Char :=
  ms.flatMap fun m => ',' :: '"' :: memberRest write m

theorem intercalate_comma (s : List Char) (ss : List (List Char)) :
    [','].intercalate (s :: ss) = s ++ ss.flatMap (',' :: ·) := by
  induction ss generalizing s with
  | nil => simp
  | cons t ss ih => rw [List.intercalate_cons_cons, ih]; simp

theorem length_le_laterMembers (write : α → List Char) (ms : List (String × α)) :
    ms.length ≤ (laterMembers write ms).length := by
  induction ms with
  | nil => simp
  | cons m ms ih =>
    simp only [laterMembers, List.flatMap_cons, List.length_append, List.length_cons] at ih ⊢
    omega

theorem nextName_quote (s : List Char) : nextName true ('"' :: s) = .ok (some s) := rfl

theorem nextName_comma (s : List Char) : nextName false (',' :: '"' :: s) = .ok (some s) := rfl

theorem readColon_colon (s : List Char) : readColon (':' :: s) = .ok s := rfl

theorem exists_cons_laterMembers (write : α → List Char) (ms : List (String × α))
    (rest : List Char) :
    ∃ c t, laterMembers write ms ++ '\x7d' :: rest = c :: t ∧ (c = ',' ∨ c = '\x7d') := by
  cases ms with
  | nil => exact ⟨_, _, rfl, .inr rfl⟩
  | cons m ms => exact ⟨_, _, rfl, .inl rfl⟩

theorem readString_memberRest (write : α → List Char) (m : String × α) (rest : List Char) :
    readString (memberRest write m ++ rest) = .ok (m.1, ':' :: (write m.2 ++ rest)) := by
  rw [← readString_quoteChars, memberRest, List.append_assoc]
  rfl

/-- One round of reading members, as far as the value of the one that is read goes. -/
theorem readMembers_of_nextName {first : Bool} {name : String} {s t u w : List Char} (rounds : ℕ)
    (hn : nextName first s = .ok (some t)) (ht : readString t = .ok (name, u))
    (hu : readColon u = .ok w) : readMembers item (rounds + 1) first s = (do
      let (v, s) ← item w
      let (ms, s) ← readMembers item rounds false s
      return ((name, v) :: ms, s)) := by
  simp only [readMembers, hn, ht, hu, bind, Except.bind]

theorem readMembers_succ {first : Bool} {s rest : List Char} {m : String × α} (rounds : ℕ)
    (hm : ReadsAs item (write m.2) m.2)
    (hn : nextName first s =
      .ok (some (memberRest write m ++ (laterMembers write ms ++ '\x7d' :: rest)))) :
    readMembers item (rounds + 1) first s =
      (readMembers item rounds false (laterMembers write ms ++ '\x7d' :: rest)).map
        fun (ms, rest) => (m :: ms, rest) := by
  obtain ⟨c, t, ht, hc⟩ := exists_cons_laterMembers write ms rest
  have hvalue := hm c t hc
  rw [← ht] at hvalue
  rw [readMembers_of_nextName rounds hn (readString_memberRest _ _ _) (readColon_colon _), hvalue]
  simp only [bind, Except.bind]
  cases readMembers item rounds false (laterMembers write ms ++ '\x7d' :: rest) <;> rfl

theorem readMembers_laterMembers (h : ∀ m ∈ ms, ReadsAs item (write m.2) m.2) {rounds : ℕ}
    (hr : ms.length < rounds) (rest : List Char) :
    readMembers item rounds false (laterMembers write ms ++ '\x7d' :: rest) = .ok (ms, rest) := by
  induction ms generalizing rounds with
  | nil =>
    obtain ⟨rounds, rfl⟩ := Nat.exists_eq_add_of_lt hr
    rfl
  | cons m ms ih =>
    obtain ⟨hm, hms⟩ := List.forall_mem_cons.1 h
    obtain ⟨rounds, rfl⟩ : ∃ n, rounds = n + 1 := ⟨rounds - 1, by omega⟩
    rw [List.length_cons, Nat.add_lt_add_iff_right] at hr
    have hs : laterMembers write (m :: ms) ++ '\x7d' :: rest =
        ',' :: '"' :: (memberRest write m ++ (laterMembers write ms ++ '\x7d' :: rest)) := by
      simp [laterMembers]
    rw [hs, readMembers_succ rounds hm (nextName_comma _), ih hms hr]
    rfl

def membersChars (write : α → List Char) : List (String × α) → List Char
  | [] => []
  | m :: ms => '"' :: memberRest write m ++ laterMembers write ms

theorem readMembers_membersChars (h : ∀ m ∈ ms, ReadsAs item (write m.2) m.2) {rounds : ℕ}
    (hr : ms.length < rounds) (rest : List Char) :
    readMembers item rounds true (membersChars write ms ++ '\x7d' :: rest) = .ok (ms, rest) := by
  obtain ⟨rounds, rfl⟩ : ∃ n, rounds = n + 1 := ⟨rounds - 1, by omega⟩
  cases ms with
  | nil => rfl
  | cons m ms =>
    obtain ⟨hm, hms⟩ := List.forall_mem_cons.1 h
    rw [List.length_cons, Nat.add_lt_add_iff_right] at hr
    rw [membersChars, List.cons_append, List.cons_append, List.append_assoc,
      readMembers_succ rounds hm (nextName_quote _), readMembers_laterMembers hms hr]
    rfl

theorem length_le_membersChars (write : α → List Char) (ms : List (String × α)) :
    ms.length ≤ (membersChars write ms).length := by
  cases ms with
  | nil => simp
  | cons m ms =>
    have := length_le_laterMembers write ms
    simp only [membersChars, List.length_cons, List.length_append, List.cons_append]
    omega

theorem skipBlanks_quote (s : List Char) : skipBlanks ('"' :: s) = '"' :: s := rfl

theorem skipBlanks_brace (s : List Char) : skipBlanks ('\x7b' :: s) = '\x7b' :: s := rfl

theorem readValue_quote (depth : ℕ) (s : List Char) : readValue depth ('"' :: s) =
    (readString s).map fun (text, rest) => (string text, rest) := by
  unfold readValue
  simp only [skipBlanks_quote]
  rfl

theorem readValue_brace (depth : ℕ) (s : List Char) : readValue (depth + 1) ('\x7b' :: s) =
    (readMembers (readValue depth) (s.length + 1) true s).map
      fun (ms, rest) => (object ms, rest) := by
  unfold readValue
  simp only [skipBlanks_brace]
  rfl

/-- An object is read back if the values of its members are. -/
theorem readValue_object {depth : ℕ} {ms : List (String × Json)} {write : Json → List Char}
    (h : ∀ m ∈ ms, ReadsAs (readValue depth) (write m.2) m.2) (rest : List Char) :
    readValue (depth + 1) ('\x7b' :: (membersChars write ms ++ '\x7d' :: rest)) =
      .ok (object ms, rest) := by
  have hl : ms.length < (membersChars write ms ++ '\x7d' :: rest).length + 1 := by
    have := length_le_membersChars write ms
    rw [List.length_append]
    omega
  rw [readValue_brace, readMembers_membersChars h hl]
  rfl

def compactChars (v : Json) : List Char := v.compact.toList

theorem map_toList_compactMembers (ms : List (String × Json)) :
    (compactMembers ms).map String.toList = ms.map fun m => '"' :: memberRest compactChars m := by
  induction ms with
  | nil => rfl
  | cons m ms ih =>
    rw [compactMembers, List.map_cons, ih, List.map_cons]
    simp [memberRest, quote, quoteChars, compactChars]

theorem intercalate_members (ms : List (String × Json)) :
    [','].intercalate (ms.map fun m => '"' :: memberRest compactChars m) =
      membersChars compactChars ms := by
  cases ms with
  | nil => rfl
  | cons m ms => rw [List.map_cons, intercalate_comma, List.flatMap_map]; rfl

theorem compactChars_object (ms : List (String × Json)) :
    compactChars (object ms) = '\x7b' :: (membersChars compactChars ms ++ ['\x7d']) := by
  have hcomma : ",".toList = [','] := rfl
  rw [compactChars, compact, String.toList_append, String.toList_append, String.toList_intercalate,
    map_toList_compactMembers, hcomma, intercalate_members]
  rfl

theorem compactChars_string_append (s : String) (rest : List Char) :
    compactChars (string s) ++ rest = '"' :: (s.toList.flatMap escapeChar ++ '"' :: rest) := by
  simp [compactChars, compact, quote, quoteChars]

theorem readsAs_string (depth : ℕ) (s : String) :
    ReadsAs (readValue depth) (compactChars (string s)) (string s) := by
  intro c rest _
  rw [compactChars_string_append, readValue_quote, readString_quoteChars]
  rfl

theorem readsAs_boolean (depth : ℕ) (b : Bool) :
    ReadsAs (readValue depth) (compactChars (boolean b)) (boolean b) := by
  intro c rest _
  unfold readValue
  cases b <;> rfl

theorem parse_compact_of_readsAs {ms : List (String × Json)}
    (h : ∀ m ∈ ms, ReadsAs (readValue 126) (compactChars m.2) m.2) :
    parse (object ms).compact = .ok (object ms) := by
  have hr := readValue_object h []
  rw [parse, ← compactChars, compactChars_object, maxDepth, hr]
  rfl

theorem parse_compact_object {ms : List (String × Json)} (h : ∀ m ∈ ms, ∃ s, m.2 = string s) :
    parse (object ms).compact = .ok (object ms) :=
  parse_compact_of_readsAs fun m hm => by
    obtain ⟨s, hs⟩ := h m hm
    exact hs ▸ readsAs_string 126 s

theorem toNat_of_mem_membersChars {ms : List (String × Json)}
    (h : ∀ m ∈ ms, ∀ d ∈ compactChars m.2, 0x20 ≤ d.toNat) :
    ∀ d ∈ membersChars compactChars ms, 0x20 ≤ d.toNat := by
  have hmember : ∀ m ∈ ms, ∀ d ∈ '"' :: memberRest compactChars m, 0x20 ≤ d.toNat := by
    intro m hm d hd
    have hs : '"' :: memberRest compactChars m =
        quoteChars m.1.toList ++ ':' :: compactChars m.2 := by simp [memberRest, quoteChars]
    rw [hs, List.mem_append, List.mem_cons] at hd
    rcases hd with hd | rfl | hd
    · exact toNat_of_mem_quoteChars hd
    · decide
    · exact h m hm d hd
  have hlater : ∀ ms' ⊆ ms, ∀ d ∈ laterMembers compactChars ms', 0x20 ≤ d.toNat := by
    intro ms' hms' d hd
    obtain ⟨m, hm, hd⟩ := List.mem_flatMap.1 hd
    rcases List.mem_cons.1 hd with rfl | hd
    · decide
    · exact hmember m (hms' hm) d hd
  cases ms with
  | nil => simp [membersChars]
  | cons m ms =>
    intro d hd
    rcases List.mem_append.1 hd with hd | hd
    · exact hmember m List.mem_cons_self d hd
    · exact hlater ms (List.subset_cons_self m ms) d hd

theorem toNat_of_mem_string (s : String) : ∀ d ∈ compactChars (string s), 0x20 ≤ d.toNat := by
  intro d hd
  rw [compactChars, compact, quote, String.toList_ofList] at hd
  exact toNat_of_mem_quoteChars hd

theorem toNat_of_mem_object {ms : List (String × Json)} (h : ∀ m ∈ ms, ∃ s, m.2 = string s) :
    ∀ d ∈ compactChars (object ms), 0x20 ≤ d.toNat := by
  have hms := toNat_of_mem_membersChars fun m hm => by
    obtain ⟨s, hs⟩ := h m hm
    exact hs ▸ toNat_of_mem_string s
  intro d hd
  rw [compactChars_object, List.mem_cons, List.mem_append, List.mem_singleton] at hd
  rcases hd with rfl | hd | rfl
  · decide
  · exact hms d hd
  · decide

theorem readValue_of_blanks (depth : ℕ) {s : List Char} (h : Text.Blanks s) :
    ∃ e, readValue depth s = .error e := by
  unfold readValue
  cases hs : skipBlanks s with
  | nil => exact ⟨_, rfl⟩
  | cons c rest =>
    have hs' : s.dropWhile isBlank = c :: rest := hs
    have hc : Text.isBlank c = true :=
      h c ((List.dropWhile_suffix isBlank).subset (hs' ▸ List.mem_cons_self))
    have hne (d : Char) (hd : Text.isBlank d = false) : ¬ c = d := by
      rintro rfl
      exact absurd hc (by rw [hd]; decide)
    have hnum : ¬ isNumberStart c = true := by
      intro hn
      rcases Bool.or_eq_true_iff.1 hn with hn | hn
      · exact hne '-' (by decide) (by simpa using hn)
      · exact absurd hc (by simp [Text.not_isBlank_of_isDigit hn])
    simp only
    rw [if_neg (hne _ (by decide)), if_neg (hne _ (by decide)), if_neg (hne _ (by decide)),
      if_neg hnum, if_neg (hne _ (by decide)), if_neg (hne _ (by decide)),
      if_neg (hne _ (by decide))]
    exact ⟨_, rfl⟩

theorem not_blanks_of_parse {text : String} {v : Json} (h : parse text = .ok v) :
    ¬ Text.Blanks text.toList := by
  intro hb
  obtain ⟨e, he⟩ := readValue_of_blanks maxDepth hb
  rw [parse, he] at h
  cases h

end ColumnFilter.Json
