import ColumnFilter.CommandLine.Failure
import ColumnFilter.Proofs.Json.Integers
import ColumnFilter.Proofs.Row.Keyed
import ColumnFilter.Proofs.Text.Order

/-! # Rows by the last values of names

Of the members of an object only the last one of a name counts. An object is a
row if none of these values nests, and else it fails on the first name in byte
order under which one does. So the order in which names stand does not matter.
-/

namespace ColumnFilter

open Json (ReadsAs Written readValue)
open Record (Last)

variable {text k name id t : String} {v : Json} {ms : List (String × Json)}

namespace Json

def Nests : Json → Prop
  | array _ | object _ => True
  | _ => False

/-- The text that a value is kept as: a string as it is, a number or a boolean as it is written. -/
inductive CellText : Json → String → Prop
  | string (s : String) : CellText (string s) s
  | number (n : Number) : CellText (number n) (compact (number n))
  | boolean (b : Bool) : CellText (boolean b) (compact (boolean b))

theorem scalar?_eq_some_iff : v.scalar? = some t ↔ v.CellText t := by
  constructor
  · intro h
    cases v with
    | null | array _ | object _ => cases h
    | string s =>
      obtain rfl := Option.some.inj h
      exact .string s
    | number n =>
      obtain rfl := Option.some.inj h
      have hn := CellText.number n
      rwa [compact] at hn
    | boolean b =>
      obtain rfl := Option.some.inj h
      have hb := CellText.boolean b
      rwa [compact] at hb
  · intro h
    cases h with
    | string s => rfl
    | number n => rw [compact, scalar?]
    | boolean b => rw [compact, scalar?]

theorem not_flat_iff : ¬ v.Flat ↔ v.Nests := by
  cases v <;> simp [Flat, Nests, scalar?]

end Json

namespace Row

variable {object : Record Json} {e : RowError} {counts : String → Json → Prop}

/-- The first one in byte order of the names with the property. -/
def FirstName (p : String → Prop) (n : String) : Prop :=
  p n ∧ ∀ m, p m → (compare (Text.encoding n) (Text.encoding m)).isLE = true

/-- What the values that count under their names come to: a row of the texts of those that have one,
if no value nests, and else an error on the first name with a value that does. -/
inductive ComesTo (counts : String → Json → Prop) : Except RowError Row → Prop
  | row {row : Row} : (∀ n v, counts n v → ¬ v.Nests) →
      (∀ n t, row.get? n = some t ↔ ∃ v, counts n v ∧ v.CellText t) → ComesTo counts (.ok row)
  | nested {n : String} : FirstName (fun m => ∃ v, counts m v ∧ v.Nests) n →
      ComesTo counts (.error (.nestedCell n))

theorem FirstName.unique {p : String → Prop} {m n : String} (hm : FirstName p m)
    (hn : FirstName p n) : m = n := by
  have h := Std.OrientedCmp.isLE_antisymm (hm.2 n hn.1) (hn.2 m hm.1)
  rw [Text.compare_encoding, Text.compare_codePoints] at h
  exact Std.LawfulEqOrd.eq_of_compare h

theorem cells_eq_error (h : cells ms = .error e) : ∃ before name v after,
    ms = before ++ (name, v) :: after ∧ (∀ m ∈ before, m.2.Flat) ∧ ¬ v.Flat ∧
      e = .nestedCell name := by
  induction ms with
  | nil => cases h
  | cons m ms ih =>
    obtain ⟨n, w⟩ := m
    by_cases hw : w.Flat
    · have hrest : cells ms = .error e := by
        rcases hw with rfl | hs
        · exact h
        · obtain ⟨t, ht⟩ := Option.isSome_iff_exists.1 hs
          rw [cells_cons_of_scalar? ht, Outcome.map_eq_error_iff] at h
          exact h
      obtain ⟨before, name, v, after, rfl, hbefore, hv, rfl⟩ := ih hrest
      exact ⟨(n, w) :: before, name, v, after, rfl, List.forall_mem_cons.2 ⟨hw, hbefore⟩, hv, rfl⟩
    · rw [cells_cons_of_not_flat hw] at h
      exact ⟨[], n, w, ms, rfl, by simp, hw, (Except.error.inj h).symm⟩

theorem ofRecord_comesTo (h : ∀ n v, object.get? n = some v ↔ counts n v) :
    ComesTo counts (ofRecord object) := by
  cases hr : ofRecord object with
  | ok row =>
    obtain ⟨hflat, hrow⟩ := ofRecord_eq_ok_iff.1 hr
    refine .row (fun n v hv => ?_) fun n t => ?_
    · rw [← Json.not_flat_iff, not_not]
      exact hflat n v ((h n v).2 hv)
    · rw [hrow, Option.bind_eq_bind, Option.bind_eq_some_iff]
      simp only [Json.scalar?_eq_some_iff, h]
  | error e =>
    rw [ofRecord, Outcome.map_eq_error_iff] at hr
    obtain ⟨before, name, v, after, hentries, hbefore, hv, rfl⟩ := cells_eq_error hr
    have hmem (m : String) (w : Json) : counts m w ↔ (m, w) ∈ before ++ (name, v) :: after := by
      rw [← hentries, Record.mem_entries_iff, h]
    refine .nested ⟨⟨v, (hmem name v).2 (by simp), Json.not_flat_iff.1 hv⟩, ?_⟩
    rintro m ⟨w, hw, hnests⟩
    rw [Text.compare_encoding, Text.compare_codePoints]
    rcases List.mem_append.1 ((hmem m w).1 hw) with hm | hm
    · exact absurd (hbefore _ hm) (Json.not_flat_iff.2 hnests)
    rcases List.mem_cons.1 hm with he | hm
    · cases he
      exact Std.ReflCmp.isLE_rfl
    · have hasc := object.ascending
      rw [hentries] at hasc
      have hlt : compare name m = .lt :=
        if_pos ((List.pairwise_cons.1 (List.pairwise_append.1 hasc).2.1).1 _ hm)
      rw [hlt]
      rfl

theorem ComesTo.unique {r r' : Except RowError Row} (h : ComesTo counts r)
    (h' : ComesTo counts r') : r = r' := by
  cases h with
  | row hflat hrow =>
    cases h' with
    | row _ hrow' =>
      refine congrArg Except.ok (Record.ext_get? fun n => Option.ext fun t => ?_)
      rw [hrow, hrow']
    | nested hn =>
      obtain ⟨v, hv, hnests⟩ := hn.1
      exact absurd hnests (hflat _ v hv)
  | nested hn =>
    cases h' with
    | row hflat _ =>
      obtain ⟨v, hv, hnests⟩ := hn.1
      exact absurd hnests (hflat _ v hv)
    | nested hn' => rw [hn.unique hn']

theorem readObject_of_parse (h : Json.parse text = .ok (.object ms)) :
    readObject text = .ok (.ofList ms) := by
  rw [readObject, h]

theorem parse_comesTo (h : Json.parse text = .ok (.object ms)) :
    ComesTo (Last ms) (parse text) := by
  rw [parse, readObject_of_parse h]
  exact ofRecord_comesTo fun n v => Record.get?_ofList_eq_some_iff_last

end Row

namespace KeyedRow

open Row (ComesTo)

theorem parse_of_parse (h : Json.parse text = .ok (.object ms)) : parse k text =
    ((Record.ofList ms).get? k >>= Json.scalar?).elim (.error (.missingKey k)) fun id =>
      (Row.ofRecord ((Record.ofList ms).erase k)).map (KeyedRow.mk (.ofIdentifier id)) := by
  rw [parse, Row.readObject_of_parse h, Outcome.ok_bind]
  cases (Record.ofList ms).get? k >>= Json.scalar? with
  | none => rfl
  | some id => cases Row.ofRecord ((Record.ofList ms).erase k) <;> rfl

theorem parse_eq_missingKey (h : Json.parse text = .ok (.object ms))
    (hk : ∀ v id, Last ms k v → ¬ v.CellText id) : parse k text = .error (.missingKey k) := by
  have hnone : (Record.ofList ms).get? k >>= Json.scalar? = none := by
    rw [Option.eq_none_iff_forall_ne_some]
    intro id hid
    obtain ⟨v, hv, ht⟩ := Option.bind_eq_some_iff.1 hid
    exact hk v id (Record.get?_ofList_eq_some_iff_last.1 hv) (Json.scalar?_eq_some_iff.1 ht)
  rw [parse_of_parse h, hnone, Option.elim_none]

/-- The cells of a keyed row are those of a row without the key column. -/
theorem parse_comesTo (h : Json.parse text = .ok (.object ms)) (hv : Last ms k v)
    (ht : v.CellText id) : ∃ r, ComesTo (fun n w => n ≠ k ∧ Last ms n w) r ∧
      parse k text = r.map (KeyedRow.mk (.ofIdentifier id)) := by
  have hid : (Record.ofList ms).get? k >>= Json.scalar? = some id :=
    Option.bind_eq_some_iff.2
      ⟨v, Record.get?_ofList_eq_some_iff_last.2 hv, Json.scalar?_eq_some_iff.2 ht⟩
  refine ⟨Row.ofRecord ((Record.ofList ms).erase k), Row.ofRecord_comesTo fun n w => ?_, ?_⟩
  · rw [Record.get?_erase, ← Record.get?_ofList_eq_some_iff_last]
    split_ifs with hn <;> simp [hn]
  · rw [parse_of_parse h, hid, Option.elim_some]

end KeyedRow

namespace Row

/-- An object is read as what the last values of its names come to, and its failure is one of the
first line. With a key column the last value there has to have a text, which is the key, and the
other names make up the row. Members under different names may stand in any order. -/
theorem parse_eq_iff_comesTo (h : Json.parse text = .ok (.object ms)) :
    (∀ r, parse text = r ↔ ComesTo (Last ms) r) ∧
    (∀ n, FirstName (fun m => ∃ v, Last ms m v ∧ v.Nests) n →
      (parse text).mapError CommandLine.Failure.ofRow = .error (.row 1 (.nestedCell n))) ∧
    (∀ k,
      ((∀ v id, Last ms k v → ¬ v.CellText id) →
        KeyedRow.parse k text = .error (.missingKey k)) ∧
      ∀ v id, Last ms k v → v.CellText id →
        ∃ r, ComesTo (fun n w => n ≠ k ∧ Last ms n w) r ∧
          KeyedRow.parse k text = r.map (KeyedRow.mk (.ofIdentifier id))) ∧
    ∀ text' ms', Json.parse text' = .ok (.object ms') → ms.Perm ms' →
      (ms.map Prod.fst).Nodup →
      parse text' = parse text ∧ ∀ k, KeyedRow.parse k text' = KeyedRow.parse k text := by
  have hr := parse_comesTo h
  refine ⟨fun r => ⟨fun he => he ▸ hr, hr.unique⟩, fun n hn => ?_, fun k => ⟨?_, ?_⟩, ?_⟩
  · rw [hr.unique (.nested hn)]
    rfl
  · exact KeyedRow.parse_eq_missingKey h
  · exact fun v id hv ht => KeyedRow.parse_comesTo h hv ht
  · intro text' ms' h' hp hn
    have ho : readObject text' = readObject text := by
      rw [readObject_of_parse h, readObject_of_parse h', Record.ofList_eq_of_perm hp hn]
    refine ⟨?_, fun k => ?_⟩
    · rw [parse, parse, ho]
    · rw [KeyedRow.parse, KeyedRow.parse, ho]

/-- Members of which the string under `b` does not count, nor the first array under `a`. -/
def repeated : List (String × Json) :=
  [("c", .array []), ("b", .string "x"), ("a", .array []), ("b", .array []), ("a", .null)]

theorem last_repeated : Last repeated name v ↔
    name = "a" ∧ v = .null ∨ name = "b" ∧ v = .array [] ∨ name = "c" ∧ v = .array [] := by
  rw [← Record.get?_ofList_eq_some_iff_last, Record.get?_ofList]
  simp only [repeated, List.reverse_cons, List.reverse_nil, List.nil_append, List.cons_append,
    Record.lookup?_cons, Record.lookup?_nil]
  grind

theorem parse_compact_repeated :
    Json.parse (Json.object repeated).compact = .ok (.object repeated) := by
  have hnull : Json.ReadsAs (Json.readValue 126) (Json.compactChars .null) .null := by
    intro c rest _
    unfold Json.readValue
    rfl
  have harray : Json.ReadsAs (Json.readValue 126) (Json.compactChars (.array [])) (.array []) := by
    intro c rest _
    unfold Json.readValue
    rfl
  refine Json.parse_compact_of_readsAs ?_
  simp only [repeated, List.forall_mem_cons]
  exact ⟨harray, Json.readsAs_string 126 "x", harray, harray, hnull, List.forall_mem_nil _⟩

def scalars : List (String × Json) :=
  [("x", .number (.real 1.5)), ("n", .number (.whole (-7))), ("ok", .boolean true)]

/-- The texts of these values, with a needless zero behind the first one. -/
def written (v : Json) : List Char :=
  match v with
  | .number (.real _) => ['1', '.', '5', '0']
  | v => Json.compactChars v

theorem readsAs_real (depth : ℕ) :
    ReadsAs (readValue depth) ['1', '.', '5', '0'] (.number (.real 1.5)) := by
  apply Json.readsAs_number depth rfl
  intro c rest hc
  have hw : Json.readWritten (['1', '.', '5', '0'] ++ c :: rest) =
      .ok (⟨false, ['1'], some ['5', '0'], none⟩, c :: rest) := by
    rcases hc with rfl | rfl <;> rfl
  have hsignificand : Written.significand ⟨false, ['1'], some ['5', '0'], none⟩ = (150, -2) := by
    decide
  have hscale : Written.scale? 150 (-2) = some 1.5 := by decide +kernel
  have hv : Written.value ⟨false, ['1'], some ['5', '0'], none⟩ (c :: rest) =
      .ok (.real 1.5) := by
    unfold Written.value
    simp only [hsignificand, hscale]
    rfl
  rw [Json.readNumber, hw, Outcome.ok_bind]
  simp only [hv]
  rfl

theorem last_scalars : Last scalars name v ↔ name = "x" ∧ v = .number (.real 1.5) ∨
    name = "n" ∧ v = .number (.whole (-7)) ∨ name = "ok" ∧ v = .boolean true := by
  rw [← Record.get?_ofList_eq_some_iff_last, Record.get?_ofList_eq_some_iff (by decide)]
  simp [scalars]

theorem parse_scalars : Json.parse "\x7b\"x\":1.50,\"n\":-7,\"ok\":true\x7d" =
    .ok (.object scalars) := by
  have hn : ReadsAs (readValue 126) ['-', '7'] (.number (.whole (-7))) :=
    Json.readsAs_chars (n := ⟨true, ['7']⟩) 126 ⟨by simp, by decide, by decide⟩ (by decide)
  have h : ∀ m ∈ scalars, ReadsAs (readValue 126) (written m.2) m.2 := by
    simp only [scalars, List.forall_mem_cons]
    exact ⟨readsAs_real 126, hn, Json.readsAs_boolean 126 true, List.forall_mem_nil _⟩
  have ht : "\x7b\"x\":1.50,\"n\":-7,\"ok\":true\x7d".toList =
      '\x7b' :: (Json.membersChars written scalars ++ ['\x7d']) := by
    decide
  rw [Json.parse, ht, Json.maxDepth, Json.readValue_object h]
  rfl

theorem scalars_comesTo : ComesTo (Last scalars)
    (.ok (.ofList [("x", "1.5"), ("n", "-7"), ("ok", "true")])) := by
  have hx : (Json.number (.real 1.5)).scalar? = some "1.5" := by decide +kernel
  have hn : (Json.number (.whole (-7))).scalar? = some "-7" := by decide +kernel
  have hok : (Json.boolean true).scalar? = some "true" := by decide +kernel
  apply ComesTo.row
  · intro n v hv
    rcases last_scalars.1 hv with ⟨-, rfl⟩ | ⟨-, rfl⟩ | ⟨-, rfl⟩ <;> exact id
  · intro n t
    rw [Record.get?_ofList_eq_some_iff (by decide)]
    simp only [last_scalars, ← Json.scalar?_eq_some_iff, List.mem_cons, List.not_mem_nil,
      Prod.mk.injEq, or_false]
    constructor
    · rintro (⟨rfl, rfl⟩ | ⟨rfl, rfl⟩ | ⟨rfl, rfl⟩)
      · exact ⟨_, .inl ⟨rfl, rfl⟩, hx⟩
      · exact ⟨_, .inr (.inl ⟨rfl, rfl⟩), hn⟩
      · exact ⟨_, .inr (.inr ⟨rfl, rfl⟩), hok⟩
    · rintro ⟨v, ⟨rfl, rfl⟩ | ⟨rfl, rfl⟩ | ⟨rfl, rfl⟩, ht⟩
      · exact .inl ⟨rfl, Option.some.inj (ht.symm.trans hx)⟩
      · exact .inr (.inl ⟨rfl, Option.some.inj (ht.symm.trans hn)⟩)
      · exact .inr (.inr ⟨rfl, Option.some.inj (ht.symm.trans hok)⟩)

theorem parse_repeated :
    (Json.object repeated).compact =
        "\x7b\"c\":[],\"b\":\"x\",\"a\":[],\"b\":[],\"a\":null\x7d" ∧
      Json.parse (Json.object repeated).compact = .ok (.object repeated) ∧
      parse (Json.object repeated).compact = .error (.nestedCell "b") ∧
      KeyedRow.parse "a" (Json.object repeated).compact = .error (.missingKey "a") ∧
      Json.parse "\x7b\"x\":1.50,\"n\":-7,\"ok\":true\x7d" = .ok (.object scalars) ∧
      parse "\x7b\"x\":1.50,\"n\":-7,\"ok\":true\x7d" =
        .ok (.ofList [("x", "1.5"), ("n", "-7"), ("ok", "true")]) := by
  have hb : FirstName (fun m => ∃ v, Last repeated m v ∧ v.Nests) "b" := by
    refine ⟨⟨_, last_repeated.2 (.inr (.inl ⟨rfl, rfl⟩)), trivial⟩, ?_⟩
    rintro m ⟨v, hv, hnests⟩
    rcases last_repeated.1 hv with ⟨rfl, rfl⟩ | ⟨rfl, rfl⟩ | ⟨rfl, rfl⟩
    · exact absurd hnests id
    · decide
    · decide
  have ha (v : Json) (id : String) (hv : Last repeated "a" v) : ¬ v.CellText id := by
    rcases last_repeated.1 hv with ⟨-, rfl⟩ | ⟨hn, -⟩ | ⟨hn, -⟩
    · intro ht
      cases ht
    · exact absurd hn (by decide)
    · exact absurd hn (by decide)
  obtain ⟨hparse, -, hkeyed, -⟩ := parse_eq_iff_comesTo parse_compact_repeated
  exact ⟨by decide +kernel, parse_compact_repeated, (hparse _).2 (.nested hb), (hkeyed "a").1 ha,
    parse_scalars, ((parse_eq_iff_comesTo parse_scalars).1 _).2 scalars_comesTo⟩

end Row

end ColumnFilter
