import ColumnFilter.CommandLine.Run
import ColumnFilter.Proofs.Condition.RoundTrip
import ColumnFilter.Proofs.Json.Layout

/-! # Conditions read back from JSON

Every string, comparator and flag is decoded from what is written of it, whatever
follows. So a member fills its own field of a draft and no other one, and a
condition is read back from its members whatever their layout.
-/

namespace ColumnFilter.Condition

open Json CommandLine

variable {s rest : List Char} {c : Condition} {d d' : Draft} {field : Field} {fields : List Field}
  {first : Bool}

theorem comparatorOf_symbol (op : Comparator) : comparatorOf op.symbol = .ok op := by
  rw [comparatorOf, Comparator.ofSymbol?_symbol]

theorem decodes_comparator (op : Comparator) :
    Decodes decodeComparator (compactChars (.string op.symbol)) op := by
  intro b rest hb
  have hq (s : List Char) : decodeComparator (b ++ '"' :: s) = decodeSymbol ('"' :: s) := by
    rw [decodeComparator, skipBlanks_append_cons hb rfl]
    rfl
  rw [compactChars_string_append, hq, decodeSymbol, skipBlanks_cons rfl]
  simp only [readString_quoteChars, malformed, Except.mapError, bind, Except.bind,
    comparatorOf_symbol]
  rfl

section Members

def valueOf (c : Condition) : Field → Json
  | .family => .string c.family
  | .qualifier => .string c.qualifier
  | .comparator => .string c.comparator.symbol
  | .value => .string c.value
  | .filterIfMissing => .boolean c.filterIfMissing
  | .latestVersionOnly => .boolean c.latestVersionOnly

def membersOf (c : Condition) (fields : List Field) : List (String × Json) :=
  fields.map fun field => (field.name, c.valueOf field)

theorem toJson_eq (c : Condition) : c.toJson = .object (c.membersOf Field.all) := rfl

def fill (c : Condition) (d : Draft) : Field → Draft
  | .family => { d with family := some c.family }
  | .qualifier => { d with qualifier := some c.qualifier }
  | .comparator => { d with comparator := some c.comparator }
  | .value => { d with value := some c.value }
  | .filterIfMissing => { d with filterIfMissing := some c.filterIfMissing }
  | .latestVersionOnly => { d with latestVersionOnly := some c.latestVersionOnly }

theorem has_fill {other : Field} (h : other ≠ field) :
    (c.fill d field).has other = d.has other := by
  cases field <;> cases other <;> first | rfl | exact absurd rfl h

theorem ofName?_name (field : Field) : Field.ofName? field.name = some field := by
  cases field <;> decide

theorem decodes_valueOf (d : Draft) (c : Condition) (field : Field) :
    Decodes (d.decode field) (compactChars (c.valueOf field)) (c.fill d field) := by
  cases field with
  | family => exact (decodes_string c.family).map ({ d with family := some · })
  | qualifier => exact (decodes_string c.qualifier).map ({ d with qualifier := some · })
  | comparator => exact (decodes_comparator c.comparator).map ({ d with comparator := some · })
  | value => exact (decodes_string c.value).map ({ d with value := some · })
  | filterIfMissing =>
    exact (decodes_boolean c.filterIfMissing).map ({ d with filterIfMissing := some · })
  | latestVersionOnly =>
    exact (decodes_boolean c.latestVersionOnly).map ({ d with latestVersionOnly := some · })

theorem decodeMembers_field {name value after : List Char} (rounds : ℕ)
    (hn : nextName first s = .ok (some name)) (hs : readString name = .ok (field.name, value))
    (hc : readColon value = .ok rest) (hf : d.has field = false)
    (hd : d.decode field rest = .ok (d', after)) :
    decodeMembers (rounds + 1) first d s = decodeMembers rounds false d' after := by
  simp [decodeMembers, hn, hs, hc, hf, hd, ofName?_name, malformed, Except.mapError, bind,
    Except.bind]

theorem decodeMembers_brace {after : List Char} (rounds : ℕ) (hn : nextName first s = .ok none)
    (hc : close s = after) : decodeMembers (rounds + 1) first d s = .ok (d, after) := by
  simp [decodeMembers, hn, hc, malformed, Except.mapError, bind, Except.bind, pure, Except.pure]

/-- Members of distinct fields are read one after the other, each into its own field. -/
theorem decodeMembers_membersOf (w : Spacing) (c : Condition) (hn : fields.Nodup)
    (hd : ∀ field ∈ fields, d.has field = false) {rounds : ℕ} (hr : fields.length < rounds)
    (rest : List Char) :
    decodeMembers rounds first d
        (w.members compactChars first (c.membersOf fields) ++ (w.brace ++ '\x7d' :: rest)) =
      .ok (fields.foldl c.fill d, rest) := by
  induction fields generalizing first d rounds with
  | nil =>
    obtain ⟨rounds, rfl⟩ := Nat.exists_eq_add_of_lt hr
    exact decodeMembers_brace _ (w.nextName_brace first rest) (w.close_brace rest)
  | cons field fields ih =>
    obtain ⟨hfield, hfields⟩ := List.nodup_cons.1 hn
    obtain ⟨hdf, hds⟩ := List.forall_mem_cons.1 hd
    obtain ⟨rounds, rfl⟩ : ∃ n, rounds = n + 1 := ⟨rounds - 1, by omega⟩
    have hfill : ∀ other ∈ fields, (c.fill d field).has other = false := fun other ho =>
      (has_fill (ne_of_mem_of_not_mem ho hfield)).trans (hds other ho)
    have hvalue := decodes_valueOf d c field w.value
      (w.members compactChars false (c.membersOf fields) ++ (w.brace ++ '\x7d' :: rest))
      w.blanks_value
    rw [List.length_cons, Nat.add_lt_add_iff_right] at hr
    rw [membersOf, List.map_cons, ← membersOf, w.members_cons,
      decodeMembers_field rounds (w.nextName_member first _) (readString_memberRest _ _ _)
        (readColon_colon _) hdf (by rw [List.append_assoc]; exact hvalue),
      ih hfields hfill hr]
    rfl

end Members

theorem finish_fill_all (c : Condition) : (Field.all.foldl c.fill {}).finish = .ok c := rfl

theorem decode_brace (s : List Char) : decode ('\x7b' :: s) = do
    let (d, s) ← decodeMembers (s.length + 1) true {} s
    return (← d.finish, s) := by
  rw [decode, skipBlanks_cons rfl]
  rfl

/-- An object of all the fields is decoded as the condition, whatever its spacing. -/
theorem decode_object (w : Spacing) (c : Condition) (rest : List Char) :
    decode (w.object compactChars (c.membersOf Field.all) ++ rest) = .ok (c, rest) := by
  have hs : w.object compactChars (c.membersOf Field.all) ++ rest =
      '\x7b' :: (w.members compactChars true (c.membersOf Field.all) ++
        (w.brace ++ '\x7d' :: rest)) := by
    simp [Spacing.object]
  have hn : Field.all.Nodup := by decide
  have hd : ∀ field ∈ Field.all, ({} : Draft).has field = false := by decide
  have hr : Field.all.length < (w.members compactChars true (c.membersOf Field.all) ++
      (w.brace ++ '\x7d' :: rest)).length + 1 := by
    have hl := w.length_le_members compactChars true (c.membersOf Field.all)
    rw [membersOf, List.length_map, ← membersOf] at hl
    rw [List.length_append]
    omega
  rw [hs, decode_brace, decodeMembers_membersOf w c hn hd hr]
  simp only [bind, Except.bind, finish_fill_all, pure, Except.pure]

theorem ofJsonText_of_toList (w : Spacing) {text : String} {after : List Char} (ha : Blanks after)
    (h : text.toList = w.object compactChars (c.membersOf Field.all) ++ after) :
    ofJsonText text = .ok c := by
  rw [ofJsonText, Decoder.run, h, decode_object]
  simp [malformed, Json.finish, skipBlanks_of_blanks ha, bind, Except.bind, Except.mapError]

theorem toList_compact (c : Condition) :
    c.toJson.compact.toList = Spacing.line.object compactChars (c.membersOf Field.all) := by
  rw [toJson_eq]
  exact compactChars_object_line _

theorem toList_pretty (c : Condition) :
    c.toJson.pretty.toList = (Spacing.lines 0).object compactChars (c.membersOf Field.all) := by
  have hne : c.membersOf Field.all ≠ [] := List.cons_ne_nil _ _
  -- strings and flags are written alike at every level
  rw [toJson_eq]
  exact (prettyChars_object 0 hne).trans rfl

theorem toList_printed (c : Condition) : (printed c.toJson).toList =
    (Spacing.lines 0).object compactChars (c.membersOf Field.all) ++ ['\n'] := by
  rw [printed, String.toList_append, toList_pretty]
  rfl

/-- A condition is read back from its text on one line, from its text on several lines, and from
what is printed of a filter that denotes it. -/
theorem ofJsonText_toJson (c : Condition) :
    ofJsonText c.toJson.compact = .ok c ∧ ofJsonText c.toJson.pretty = .ok c ∧
      ofJsonText (printed c.toJson) = .ok c ∧
      ∀ (ctx : Context) (filter : String), ctx.json = true → parse filter = .ok c →
        runParse ctx filter = .ok (printed c.toJson) := by
  have hfeed : Blanks ['\n'] := List.forall_mem_singleton.2 rfl
  refine ⟨ofJsonText_of_toList .line blanks_nil ?_, ofJsonText_of_toList (.lines 0) blanks_nil ?_,
    ofJsonText_of_toList (.lines 0) hfeed c.toList_printed, fun ctx filter hj hc => ?_⟩
  · rw [List.append_nil, toList_compact]
  · rw [List.append_nil, toList_pretty]
  · have hp : runParse ctx filter = .ok (if ctx.json then printed c.toJson
        else if ctx.quiet then "" else c.table ctx.colors) := by
      rw [runParse, parseFilter, hc]
      rfl
    rw [hp, if_pos hj]

def wave : Condition := ⟨"a\"b", "\\", .notEqual, "\x01🌊", false, true⟩

theorem ofJsonText_toJson_wave :
    wave.toJson.compact =
        "\x7b\"column_family\":\"a\\\"b\",\"column_qualifier\":\"\\\\\",\"comparator\":\"!=\"," ++
          "\"value\":\"\\u0001🌊\",\"filter_if_missing\":false,\"latest_version_only\":true\x7d" ∧
      ofJsonText wave.toJson.compact = .ok wave ∧ parse wave.render = .ok wave ∧
      runParse ⟨true, false, false, "id"⟩ wave.render = .ok (printed wave.toJson) ∧
      ofJsonText (printed wave.toJson) = .ok wave := by
  have hc : parse wave.render = .ok wave := by
    rw [parse, read_render, ofArguments_writtenArguments, if_neg (by decide), if_neg (by decide)]
    rfl
  obtain ⟨hcompact, -, hprinted, hrun⟩ := ofJsonText_toJson wave
  exact ⟨by decide +kernel, hcompact, hc, hrun _ _ rfl hc, hprinted⟩

end ColumnFilter.Condition
