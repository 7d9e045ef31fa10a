import ColumnFilter.Proofs.Json.Values
import ColumnFilter.Proofs.Outcome
import ColumnFilter.Proofs.Record
import ColumnFilter.Row.Reader

/-! # Rows with and without a key

The cells of a row are the texts of the scalars under the names of an object,
which may hold nulls besides but nothing that nests. A keyed row is the same row
without the cell that identifies it.
-/

namespace ColumnFilter

variable {text k name id : String} {v : Json} {object : Record Json}

namespace Json

def Flat (v : Json) : Prop := v = null ∨ v.scalar?.isSome

theorem Flat.of_scalar? {t : String} (h : v.scalar? = some t) : v.Flat :=
  .inr (h ▸ rfl)

end Json

namespace Row

variable {ms : List (String × Json)} {es : List (String × String)} {row : Row}

def texts (ms : List (String × Json)) : List (String × String) :=
  ms.filterMap fun m => m.2.scalar?.map (m.1, ·)

theorem cells_cons_of_scalar? {t : String} (h : v.scalar? = some t) :
    cells ((name, v) :: ms) = (cells ms).map ((name, t) :: ·) := by
  cases v with
  | null | array _ | object _ => cases h
  | boolean _ | number _ | string _ =>
    obtain rfl := Option.some.inj h
    rfl

theorem cells_cons_null : cells ((name, .null) :: ms) = cells ms := rfl

theorem cells_cons_of_not_flat (h : ¬ v.Flat) :
    cells ((name, v) :: ms) = .error (.nestedCell name) := by
  cases v with
  | null => exact absurd (.inl rfl) h
  | boolean _ | number _ | string _ => exact absurd (.inr rfl) h
  | array _ | object _ => rfl

theorem cells_eq_ok_iff : cells ms = .ok es ↔ (∀ m ∈ ms, m.2.Flat) ∧ es = texts ms := by
  induction ms generalizing es with
  | nil => simp [cells, texts, eq_comm]
  | cons m ms ih =>
    obtain ⟨name, v⟩ := m
    rw [List.forall_mem_cons]
    by_cases hv : v.Flat
    · rcases hv with rfl | hs
      · rw [cells_cons_null, ih]
        exact and_congr_left' ⟨fun h => ⟨.inl rfl, h⟩, And.right⟩
      · obtain ⟨t, ht⟩ := Option.isSome_iff_exists.1 hs
        have htexts : texts ((name, v) :: ms) = (name, t) :: texts ms := by simp [texts, ht]
        rw [cells_cons_of_scalar? ht, Outcome.map_eq_ok_iff, htexts]
        constructor
        · rintro ⟨es, hes, rfl⟩
          obtain ⟨hms, rfl⟩ := ih.1 hes
          exact ⟨⟨.of_scalar? ht, hms⟩, rfl⟩
        · rintro ⟨⟨-, hms⟩, rfl⟩
          exact ⟨_, ih.2 ⟨hms, rfl⟩, rfl⟩
    · rw [cells_cons_of_not_flat hv]
      exact iff_of_false nofun fun h => hv h.1.1

theorem mem_texts {t : String} :
    (name, t) ∈ texts ms ↔ ∃ v, (name, v) ∈ ms ∧ v.scalar? = some t := by
  simp only [texts, List.mem_filterMap, Option.map_eq_some_iff, Prod.mk.injEq, Prod.exists]
  constructor
  · rintro ⟨n, v, hm, _, hv, rfl, rfl⟩
    exact ⟨v, hm, hv⟩
  · rintro ⟨v, hm, hv⟩
    exact ⟨name, v, hm, t, hv, rfl, rfl⟩

theorem nodup_texts (h : (ms.map Prod.fst).Nodup) : ((texts ms).map Prod.fst).Nodup := by
  refine h.sublist ?_
  induction ms with
  | nil => exact .refl _
  | cons m ms ih =>
    rw [texts, List.filterMap_cons]
    cases m.2.scalar? with
    | none => exact (ih h.of_cons).cons _
    | some t => exact (ih h.of_cons).cons_cons _

theorem get?_ofList_texts (object : Record Json) (n : String) :
    (Record.ofList (texts object.entries)).get? n = object.get? n >>= Json.scalar? := by
  refine Option.ext fun t => ?_
  rw [Record.get?_ofList_eq_some_iff (nodup_texts object.nodup_names), mem_texts,
    Option.bind_eq_bind, Option.bind_eq_some_iff]
  simp only [Record.mem_entries_iff]

/-- An object is a row if nothing nests in it, and then its cells are its scalars. -/
theorem ofRecord_eq_ok_iff : ofRecord object = .ok row ↔
    (∀ n v, object.get? n = some v → v.Flat) ∧
      ∀ n, row.get? n = object.get? n >>= Json.scalar? := by
  have hflat : (∀ m ∈ object.entries, m.2.Flat) ↔ ∀ n v, object.get? n = some v → v.Flat := by
    simp only [Prod.forall, Record.mem_entries_iff]
  rw [ofRecord, Outcome.map_eq_ok_iff, ← hflat]
  constructor
  · rintro ⟨es, hes, rfl⟩
    obtain ⟨hms, rfl⟩ := cells_eq_ok_iff.1 hes
    exact ⟨hms, get?_ofList_texts object⟩
  · rintro ⟨hms, hrow⟩
    refine ⟨_, cells_eq_ok_iff.2 ⟨hms, rfl⟩, Record.ext_get? fun n => ?_⟩
    rw [get?_ofList_texts, hrow]

theorem ofRecord_erase_eq_ok_iff (h : object.get? k >>= Json.scalar? = some id) :
    ofRecord (object.erase k) = .ok row ↔
      ∃ whole, ofRecord object = .ok whole ∧ row = whole.erase k := by
  simp only [ofRecord_eq_ok_iff, Record.get?_erase]
  constructor
  · rintro ⟨hflat, hrow⟩
    refine ⟨row.put k id, ⟨fun n v hv => ?_, fun n => ?_⟩, Record.ext_get? fun n => ?_⟩
    · by_cases hn : n = k
      · subst hn
        rw [hv] at h
        exact .of_scalar? h
      · exact hflat n v (by rw [if_neg hn, hv])
    · rw [Record.get?_put, hrow]
      split_ifs with hn
      · rw [hn, h]
      · rfl
    · rw [Record.get?_erase, Record.get?_put, hrow]
      split_ifs <;> rfl
  · rintro ⟨whole, ⟨hflat, hwhole⟩, rfl⟩
    refine ⟨fun n v hv => hflat n v ?_, fun n => ?_⟩
    · split_ifs at hv
      exact hv
    · rw [Record.get?_erase, hwhole]
      split_ifs <;> rfl

theorem exists_json_of_readObject (h : readObject text = .ok object) :
    ∃ v, Json.parse text = .ok v := by
  unfold readObject at h
  split at h
  · cases h
  · next hv => exact ⟨_, hv⟩
  · cases h

theorem parse_eq_ok_iff : parse text = .ok row ↔
    ∃ object, readObject text = .ok object ∧ ofRecord object = .ok row :=
  Outcome.bind_eq_ok_iff

theorem not_blanks_of_parse (h : parse text = .ok row) : ¬ Text.Blanks text.toList := by
  obtain ⟨object, ho, -⟩ := parse_eq_ok_iff.1 h
  obtain ⟨v, hv⟩ := exists_json_of_readObject ho
  exact Json.not_blanks_of_parse hv

end Row

namespace KeyedRow

variable {row : KeyedRow}

/-- A keyed row is a row with a cell under the key column, taken out of it as the key. -/
theorem parse_eq_ok_iff : parse k text = .ok row ↔
    ∃ cells id, Row.parse text = .ok cells ∧ cells.get? k = some id ∧
      row = ⟨.ofIdentifier id, cells.erase k⟩ := by
  rw [parse, Outcome.bind_eq_ok_iff]
  constructor
  · rintro ⟨object, ho, h⟩
    cases hid : object.get? k >>= Json.scalar? with
    | none =>
      rw [hid] at h
      cases h
    | some id =>
      rw [hid] at h
      obtain ⟨rest, hrest, hrow⟩ := Outcome.bind_eq_ok_iff.1 h
      obtain ⟨cells, hcells, rfl⟩ := (Row.ofRecord_erase_eq_ok_iff hid).1 hrest
      refine ⟨cells, id, Row.parse_eq_ok_iff.2 ⟨object, ho, hcells⟩, ?_, ?_⟩
      · rw [(Row.ofRecord_eq_ok_iff.1 hcells).2, hid]
      · exact (Except.ok.inj hrow).symm
  · rintro ⟨cells, id, hcells, hid, rfl⟩
    obtain ⟨object, ho, hcells⟩ := Row.parse_eq_ok_iff.1 hcells
    rw [(Row.ofRecord_eq_ok_iff.1 hcells).2] at hid
    refine ⟨object, ho, ?_⟩
    rw [hid]
    exact Outcome.bind_eq_ok_iff.2
      ⟨_, (Row.ofRecord_erase_eq_ok_iff hid).2 ⟨cells, hcells, rfl⟩, rfl⟩

theorem not_blanks_of_parse (h : parse k text = .ok row) : ¬ Text.Blanks text.toList := by
  obtain ⟨cells, id, hcells, -, -⟩ := parse_eq_ok_iff.1 h
  exact Row.not_blanks_of_parse hcells

end KeyedRow

end ColumnFilter
