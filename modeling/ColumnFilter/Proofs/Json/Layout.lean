import ColumnFilter.Json.Decode
import ColumnFilter.Json.Printer
import ColumnFilter.Proofs.Json.Values

/-! # Layouts of objects

An object is written with blanks before its names, before its values and before
its closing brace. On one line there are none of these, and on several lines
they depend on the level at which the object stands. A reader comes to the same
names and values in every layout. With blanks anywhere between its parts, an
object with one member is read as far as the value of that is.
-/

namespace ColumnFilter.Json

variable {α β : Type} {b s rest : List Char} {c : Char} {write : α → List Char} {first : Bool}
  {m : String × α} {ms : List (String × α)}

def Blanks (s : List Char) : Prop := ∀ c ∈ s, isBlank c = true

theorem blanks_nil : Blanks [] := List.forall_mem_nil _

theorem blanks_indent (level : ℕ) : Blanks (indent level).toList := by
  intro c hc
  rw [indent, String.toList_append, List.mem_append] at hc
  rcases hc with hc | hc
  · obtain rfl := List.mem_singleton.1 hc
    rfl
  · rw [String.toList_ofList] at hc
    obtain rfl := List.eq_of_mem_replicate hc
    rfl

theorem skipBlanks_append (hb : Blanks b) (s : List Char) : skipBlanks (b ++ s) = skipBlanks s :=
  List.dropWhile_append_of_pos hb

theorem skipBlanks_cons (hc : isBlank c = false) (s : List Char) : skipBlanks (c :: s) = c :: s :=
  List.dropWhile_cons_of_neg (by simp [hc])

theorem skipBlanks_append_cons (hb : Blanks b) (hc : isBlank c = false) (s : List Char) :
    skipBlanks (b ++ c :: s) = c :: s := by
  rw [skipBlanks_append hb, skipBlanks_cons hc]

theorem skipBlanks_of_blanks (hb : Blanks b) : skipBlanks b = [] :=
  List.dropWhile_eq_nil_iff.2 hb

/-- A text is decoded as a value, whatever blanks are before it and whatever is behind it. -/
def Decodes (item : Decoder α) (text : List Char) (v : α) : Prop :=
  ∀ b rest, Blanks b → item (b ++ (text ++ rest)) = .ok (v, rest)

theorem Decodes.map {item : Decoder α} {text : List Char} {v : α} (h : Decodes item text v)
    (f : α → β) : Decodes (fun s => (item s).map fun (v, s) => (f v, s)) text (f v) := by
  intro b rest hb
  simp only [h b rest hb]
  rfl

theorem expectIdent_append (name rest : List Char) :
    expectIdent name (name ++ rest) = .ok rest := by
  induction name with
  | nil => rfl
  | cons c name ih => rw [List.cons_append, expectIdent, if_pos rfl, ih]

theorem decodes_string (text : String) :
    Decodes decodeString (compactChars (string text)) text := by
  intro b rest hb
  rw [decodeString, compactChars_string_append, skipBlanks_append_cons hb rfl]
  simp only [readString_quoteChars]
  rfl

theorem decodes_boolean (v : Bool) : Decodes decodeBoolean (compactChars (boolean v)) v := by
  intro b rest hb
  cases v with
  | false =>
    have hv : compactChars (boolean false) ++ rest = 'f' :: (['a', 'l', 's', 'e'] ++ rest) := rfl
    rw [decodeBoolean, hv, skipBlanks_append_cons hb rfl]
    simp only [expectIdent_append]
    rfl
  | true =>
    have hv : compactChars (boolean true) ++ rest = 't' :: (['r', 'u', 'e'] ++ rest) := rfl
    rw [decodeBoolean, hv, skipBlanks_append_cons hb rfl]
    simp only [expectIdent_append]
    rfl

structure Spacing where
  /-- The blanks before a name. -/
  name : List Char
  /-- The blanks between a colon and the value behind it. -/
  value : List Char
  /-- The blanks before the closing brace. -/
  brace : List Char
  blanks_name : Blanks name
  blanks_value : Blanks value
  blanks_brace : Blanks brace

def separator (first : Bool) : List Char := if first then [] else [',']

namespace Spacing

def line : Spacing := ⟨[], [], [], blanks_nil, blanks_nil, blanks_nil⟩

def lines (level : ℕ) : Spacing where
  name := (indent (level + 1)).toList
  value := [' ']
  brace := (indent level).toList
  blanks_name := blanks_indent _
  blanks_value := List.forall_mem_singleton.2 rfl
  blanks_brace := blanks_indent _

variable (w : Spacing)

def member (write : α → List Char) (m : String × α) : List Char :=
  w.name ++ '"' :: memberRest (w.value ++ write ·) m

def members (write : α → List Char) : Bool → List (String × α) → List Char
  | _, [] => []
  | first, m :: ms => separator first ++ (w.member write m ++ members write false ms)

def object (write : α → List Char) (ms : List (String × α)) : List Char :=
  '\x7b' :: (w.members write true ms ++ (w.brace ++ ['\x7d']))

theorem members_false :
    w.members write false ms = (ms.map (w.member write)).flatMap (',' :: ·) := by
  induction ms with
  | nil => rfl
  | cons m ms ih =>
    rw [members, ih]
    simp [separator]

theorem intercalate_member : [','].intercalate (ms.map (w.member write)) =
    w.members write true ms := by
  cases ms with
  | nil => rfl
  | cons m ms => rw [List.map_cons, intercalate_comma, members, members_false]; rfl

theorem length_le_members (write : α → List Char) (first : Bool) (ms : List (String × α)) :
    ms.length ≤ (w.members write first ms).length := by
  induction ms generalizing first with
  | nil => simp
  | cons m ms ih =>
    have := ih false
    simp only [members, member, List.length_append, List.length_cons]
    omega

theorem nextName_member (first : Bool) (s : List Char) :
    nextName first (separator first ++ (w.name ++ '"' :: s)) = .ok (some s) := by
  have hs : skipBlanks (w.name ++ '"' :: s) = '"' :: s :=
    skipBlanks_append_cons w.blanks_name rfl s
  cases first with
  | true => simp [nextName, separator, hs]
  | false => simp [nextName, separator, hs, skipBlanks_cons (c := ',') rfl]

theorem members_cons (first : Bool) (m : String × α) (ms : List (String × α)) (rest : List Char) :
    w.members write first (m :: ms) ++ rest =
      separator first ++ (w.name ++
        '"' :: (memberRest (w.value ++ write ·) m ++ (w.members write false ms ++ rest))) := by
  simp [members, member]

theorem skipBlanks_closing (rest : List Char) :
    skipBlanks (w.brace ++ '\x7d' :: rest) = '\x7d' :: rest :=
  skipBlanks_append_cons w.blanks_brace rfl rest

theorem nextName_brace (first : Bool) (rest : List Char) :
    nextName first (w.brace ++ '\x7d' :: rest) = .ok none := by
  simp [nextName, w.skipBlanks_closing]

theorem close_brace (rest : List Char) : close (w.brace ++ '\x7d' :: rest) = rest := by
  rw [close, w.skipBlanks_closing, List.drop_one, List.tail_cons]

end Spacing

theorem compactChars_object_line (ms : List (String × Json)) :
    compactChars (object ms) = Spacing.line.object compactChars ms := by
  rw [compactChars_object, ← intercalate_members, Spacing.object, ← Spacing.intercalate_member]
  rfl

def prettyChars (level : ℕ) (v : Json) : List Char := (prettyAt level v).toList

theorem map_toList_prettyMembers (level : ℕ) (ms : List (String × Json)) :
    ((prettyMembers (level + 1) ms).map (indent (level + 1) ++ ·)).map String.toList =
      ms.map ((Spacing.lines level).member (prettyChars (level + 1))) := by
  induction ms with
  | nil => rfl
  | cons m ms ih =>
    rw [prettyMembers, List.map_cons, List.map_cons, ih, List.map_cons]
    simp [Spacing.member, Spacing.lines, memberRest, quote, quoteChars, prettyChars]

theorem prettyChars_object (level : ℕ) {ms : List (String × Json)} (hms : ms ≠ []) :
    prettyChars level (object ms) =
      (Spacing.lines level).object (prettyChars (level + 1)) ms := by
  have hne : prettyMembers (level + 1) ms ≠ [] := by
    cases ms with
    | nil => exact absurd rfl hms
    | cons m ms => exact List.cons_ne_nil _ _
  have hcomma : ",".toList = [','] := rfl
  rw [prettyChars, prettyAt, block, if_neg hne]
  simp only [String.toList_append, String.toList_intercalate, hcomma, map_toList_prettyMembers,
    Spacing.intercalate_member]
  simp [Spacing.object, Spacing.lines]

section OneMember

/-- The characters spell the text between the quotes of a string. -/
def SpellsText (spelled : List Char) (text : String) : Prop :=
  ∀ rest, readString (spelled ++ '"' :: rest) = .ok (text, rest)

/-- What is behind the value of the only member of an object. -/
def IsEnd (s : List Char) : Prop := ∃ b b', Blanks b ∧ Blanks b' ∧ s = b ++ '\x7d' :: b'

/-- The text of an object with one member, in any spelling of the name and with blanks anywhere
between the parts. -/
inductive OneMember (name : String) (value : List Char) : List Char → Prop
  | intro {b₀ b₁ b₂ b₃ spelled after : List Char} : Blanks b₀ → Blanks b₁ → Blanks b₂ →
      Blanks b₃ → SpellsText spelled name → IsEnd after →
      OneMember name value (b₀ ++ '\x7b' :: (b₁ ++ '"' :: (spelled ++ '"' :: (b₂ ++ ':' ::
        (b₃ ++ (value ++ after))))))

variable {name text : String} {after value : List Char} {v : Json} {depth : ℕ}

theorem spellsText_escaped (text : String) : SpellsText (text.toList.flatMap escapeChar) text :=
  readString_quoteChars text

theorem oneMember_of_toList_eq (h : text.toList = '\x7b' :: '"' ::
    (name.toList.flatMap escapeChar ++ '"' :: ':' :: ' ' :: (value ++ ['\x7d']))) :
    OneMember name value text.toList := by
  rw [h]
  exact .intro blanks_nil blanks_nil blanks_nil (List.forall_mem_singleton.2 rfl)
    (spellsText_escaped name) ⟨[], [], blanks_nil, blanks_nil, rfl⟩

theorem readValue_append_blanks (hb : Blanks b) (s : List Char) :
    readValue depth (b ++ s) = readValue depth s := by
  unfold readValue
  simp only [skipBlanks_append hb]

theorem nextName_isEnd (h : IsEnd after) : nextName false after = .ok none := by
  obtain ⟨b, b', hb, -, rfl⟩ := h
  simp [nextName, skipBlanks_append_cons hb (c := '\x7d') rfl]

theorem blanks_close (h : IsEnd after) : Blanks (close after) := by
  obtain ⟨b, b', hb, hb', rfl⟩ := h
  rwa [close, skipBlanks_append_cons hb rfl, List.drop_one, List.tail_cons]

theorem readColon_blanks (hb : Blanks b) (s : List Char) : readColon (b ++ ':' :: s) = .ok s := by
  simp [readColon, skipBlanks_append_cons hb (c := ':') rfl]

/-- A reader of the object comes to the value, and ends behind it if it is through with it. -/
theorem parse_oneMember (h : OneMember name value text.toList) : ∃ after rounds, IsEnd after ∧
    parse text = (do
      let (v, s) ← readValue 126 (value ++ after)
      let (ms, s) ← readMembers (readValue 126) (rounds + 1) false s
      finish (object ((name, v) :: ms), s)) := by
  rw [parse]
  generalize text.toList = s at h
  obtain @⟨b₀, b₁, b₂, b₃, spelled, after, h₀, h₁, h₂, h₃, hs, ha⟩ := h
  have hname (t : List Char) : nextName true (b₁ ++ '"' :: t) = .ok (some t) := by
    simp [nextName, skipBlanks_append_cons h₁ (c := '"') rfl]
  -- The quotes of the name alone make enough rounds for a member and the end behind it.
  obtain ⟨k, hk⟩ : ∃ k, (b₁ ++ '"' :: (spelled ++ '"' :: (b₂ ++ ':' :: (b₃ ++
      (value ++ after))))).length = k + 1 := Nat.exists_eq_succ_of_ne_zero (by simp)
  refine ⟨after, k, ha, ?_⟩
  rw [readValue_append_blanks h₀, maxDepth, readValue_brace, hk,
    readMembers_of_nextName _ (hname _) (hs _) (readColon_blanks h₂ _), readValue_append_blanks h₃]
  cases readValue 126 (value ++ after) with
  | error e => rfl
  | ok r =>
    simp only [bind, Except.bind]
    cases readMembers (readValue 126) (k + 1) false r.2 <;> rfl

theorem parse_oneMember_ok (h : OneMember name value text.toList)
    (hv : ∀ after, IsEnd after → readValue 126 (value ++ after) = .ok (v, after)) :
    parse text = .ok (object [(name, v)]) := by
  obtain ⟨after, rounds, ha, hp⟩ := parse_oneMember h
  have hf : finish (object [(name, v)], close after) = .ok (object [(name, v)]) := by
    rw [finish, skipBlanks_of_blanks (blanks_close ha)]
    rfl
  rw [hp, hv after ha]
  simp only [readMembers, nextName_isEnd ha, bind, Except.bind]
  exact hf

theorem parse_oneMember_error (h : OneMember name value text.toList)
    (hv : ∀ after, IsEnd after → ∃ e, readValue 126 (value ++ after) = .error e) :
    ∃ e, parse text = .error e := by
  obtain ⟨after, rounds, ha, hp⟩ := parse_oneMember h
  obtain ⟨e, he⟩ := hv after ha
  exact ⟨e, by rw [hp, he]; rfl⟩

theorem parse_oneMember_string {spelled : List Char} {t : String} (ht : SpellsText spelled t)
    (h : OneMember name ('"' :: (spelled ++ ['"'])) text.toList) :
    parse text = .ok (object [(name, string t)]) := by
  refine parse_oneMember_ok h fun after _ => ?_
  rw [List.cons_append, readValue_quote, List.append_assoc, List.singleton_append, ht]
  rfl

end OneMember

end ColumnFilter.Json
