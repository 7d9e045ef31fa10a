import ColumnFilter.Json.Printer
import ColumnFilter.Proofs.Row.Keyed
import ColumnFilter.Proofs.Text.Lowercase
import ColumnFilter.Proofs.Text.Order

/-! # Rows written on a line

A keyed row is written as an object of strings, the text of the key under the key
column among the cells. The line is read back as the row, in whatever order its
members stand, and holds neither a line feed nor a carriage return.
-/

namespace ColumnFilter

namespace Text

theorem le_of_mem_utf8EncodeChar {c : Char} (hc : 0x20 ≤ c.toNat) :
    ∀ b ∈ String.utf8EncodeChar c, 0x20 ≤ b.toNat := by
  have ht := toNat_lt c
  simp only [String.utf8EncodeChar, Char.toNat_val]
  split_ifs
  all_goals
    simp only [List.forall_mem_cons, UInt8.toNat_ofNat', List.not_mem_nil, false_imp_iff,
      implies_true, and_true]
    omega

theorem le_of_mem_encoding {text : String} (h : ∀ d ∈ text.toList, 0x20 ≤ d.toNat) {b : UInt8}
    (hb : b ∈ encoding text) : 0x20 ≤ b.toNat := by
  rw [encoding_eq] at hb
  obtain ⟨c, hc, hb⟩ := List.mem_flatMap.1 hb
  exact le_of_mem_utf8EncodeChar (h c hc) b hb

end Text

namespace KeyedRow

variable {k n text : String} {row : KeyedRow} {v : Json} {ms : List (String × Json)}

def members (k : String) (row : KeyedRow) : List (String × Json) :=
  (k, .string row.key.text) :: row.cells.entries.map fun (n, t) => (n, .string t)

/-- The text is the row on one line. -/
def WrittenAs (k : String) (row : KeyedRow) (text : String) : Prop :=
  ∃ ms : List (String × Json), ms.Perm (row.members k) ∧ text = (Json.object ms).compact

/-- What a row is that has been read: its key is in lower case and is not among its cells. -/
structure Stable (k : String) (row : KeyedRow) : Prop where
  key : .ofIdentifier row.key.text = row.key
  cells : row.cells.get? k = none

theorem stable_of_parse (h : parse k text = .ok row) : row.Stable k := by
  obtain ⟨cells, id, -, -, rfl⟩ := parse_eq_ok_iff.1 h
  exact ⟨RowKey.ofIdentifier_text id, by rw [Record.get?_erase, if_pos rfl]⟩

theorem mem_members_iff : (n, v) ∈ row.members k ↔
    ∃ t, v = .string t ∧ (n = k ∧ t = row.key.text ∨ row.cells.get? n = some t) := by
  simp only [members, List.mem_cons, List.mem_map, Prod.mk.injEq, Prod.exists,
    Record.mem_entries_iff]
  constructor
  · rintro (⟨rfl, rfl⟩ | ⟨n, t, ht, rfl, rfl⟩)
    · exact ⟨_, rfl, .inl ⟨rfl, rfl⟩⟩
    · exact ⟨t, rfl, .inr ht⟩
  · rintro ⟨t, rfl, ⟨rfl, rfl⟩ | ht⟩
    · exact .inl ⟨rfl, rfl⟩
    · exact .inr ⟨n, t, ht, rfl, rfl⟩

theorem exists_string_of_mem (h : ms.Perm (row.members k)) : ∀ m ∈ ms, ∃ s, m.2 = .string s := by
  rintro ⟨n, v⟩ hm
  obtain ⟨t, rfl, -⟩ := mem_members_iff.1 (h.subset hm)
  exact ⟨t, rfl⟩

theorem Stable.nodup_members (hr : row.Stable k) : ((row.members k).map Prod.fst).Nodup := by
  have hnames : (row.members k).map Prod.fst = k :: row.cells.entries.map Prod.fst := by
    simp [members]
  rw [hnames, List.nodup_cons]
  refine ⟨fun hk => ?_, row.cells.nodup_names⟩
  obtain ⟨⟨n, t⟩, hm, rfl⟩ := List.mem_map.1 hk
  rw [Record.mem_entries_iff, hr.cells] at hm
  cases hm

/-- The members in any order make up the row with its key among the cells. -/
theorem Stable.ofRecord_members (hr : row.Stable k) (h : ms.Perm (row.members k)) :
    Row.ofRecord (.ofList ms) = .ok (row.cells.put k row.key.text) := by
  have hn : (ms.map Prod.fst).Nodup := (h.map Prod.fst).nodup_iff.2 hr.nodup_members
  have hget (n : String) (v : Json) : (Record.ofList ms).get? n = some v ↔
      ∃ t, v = .string t ∧ (n = k ∧ t = row.key.text ∨ row.cells.get? n = some t) := by
    rw [Record.get?_ofList_eq_some_iff hn, h.mem_iff, mem_members_iff]
  rw [Row.ofRecord_eq_ok_iff]
  refine ⟨fun n v hv => ?_, fun n => Option.ext fun t => ?_⟩
  · obtain ⟨t, rfl, -⟩ := (hget n v).1 hv
    exact .of_scalar? rfl
  · rw [Option.bind_eq_bind, Option.bind_eq_some_iff, Record.get?_put]
    simp only [hget]
    constructor
    · intro ht
      refine ⟨.string t, ⟨t, rfl, ?_⟩, rfl⟩
      split_ifs at ht with hk
      · exact .inl ⟨hk, (Option.some.inj ht).symm⟩
      · exact .inr ht
    · rintro ⟨_, ⟨t', rfl, ht⟩, hv⟩
      obtain rfl := Option.some.inj hv
      rcases ht with ⟨rfl, rfl⟩ | ht
      · exact if_pos rfl
      · rw [if_neg, ht]
        rintro rfl
        rw [hr.cells] at ht
        cases ht

theorem Stable.parse_of_writtenAs (hr : row.Stable k) (h : row.WrittenAs k text) :
    parse k text = .ok row := by
  obtain ⟨ms, hms, rfl⟩ := h
  have hobject : Row.readObject (Json.object ms).compact = .ok (.ofList ms) := by
    rw [Row.readObject, Json.parse_compact_object (exists_string_of_mem hms)]
  have hcells : (row.cells.put k row.key.text).erase k = row.cells := by
    refine Record.ext_get? fun n => ?_
    rw [Record.get?_erase, Record.get?_put]
    split_ifs with hn
    · rw [hn, hr.cells]
    · rfl
  refine parse_eq_ok_iff.2 ⟨row.cells.put k row.key.text, row.key.text, ?_, ?_, ?_⟩
  · exact Row.parse_eq_ok_iff.2 ⟨_, hobject, hr.ofRecord_members hms⟩
  · rw [Record.get?_put, if_pos rfl]
  · rw [hr.key, hcells]

theorem WrittenAs.le_of_mem (h : row.WrittenAs k text) {b : UInt8}
    (hb : b ∈ Text.encoding text) : 0x20 ≤ b.toNat := by
  obtain ⟨ms, hms, rfl⟩ := h
  exact Text.le_of_mem_encoding (Json.toNat_of_mem_object (exists_string_of_mem hms)) hb

end KeyedRow

end ColumnFilter
