import ColumnFilter.Proofs.Condition.Verdict
import ColumnFilter.Proofs.Row.Keyed
import ColumnFilter.Proofs.Scan.Composition

/-! # Scans and single rows

A row that is scanned gets the verdict that it gets by itself, unless the
condition is on the key column, which a scan does not find among the cells.
-/

namespace ColumnFilter

variable {c : Condition} {k text : String} {cells : Row} {row : KeyedRow}

namespace Condition

theorem passes_erase_of_ne (h : c.column ≠ k) : c.passes (cells.erase k) = c.passes cells := by
  rw [passes, Record.get?_erase, if_neg h, passes]

theorem passes_erase_column : c.passes (cells.erase c.column) = !c.filterIfMissing :=
  passes_of_absent (by rw [Record.get?_erase, if_pos rfl])

end Condition

theorem KeyedRow.cells_of_parse (hrow : KeyedRow.parse k text = .ok row)
    (hcells : Row.parse text = .ok cells) : row.cells = cells.erase k := by
  obtain ⟨cells', id, h, -, rfl⟩ := parse_eq_ok_iff.1 hrow
  obtain rfl := Except.ok.inj (hcells.symm.trans h)
  rfl

namespace Scan

theorem run_of_parse {s : List UInt8} (hs : Single (Text.encoding text) s)
    (hrow : KeyedRow.parse k text = .ok row) :
    run c k s = .ok (if c.passes row.cells then [row] else []) := by
  rw [run_of_not_blanks hs rfl (KeyedRow.not_blanks_of_parse hrow), hrow]

/-- A keyed row is read where a row with a cell under the key column is. Its key is the lower case
of that cell, and its cells are the others. A scan of its line keeps it on the verdict on the row,
or, if the condition is on the key column, on that on a row without the column. -/
theorem run_eq_verdict (k text : String) :
    (∀ row, KeyedRow.parse k text = .ok row ↔
      ∃ cells id, Row.parse text = .ok cells ∧ cells.get? k = some id ∧
        row = ⟨⟨.ofList (Text.lowercase id.toList)⟩, cells.erase k⟩) ∧
    (∀ (cells : Row) (n : String),
      (cells.erase k).get? n = if n = k then none else cells.get? n) ∧
    ∀ (c : Condition) (s : List UInt8) (cells : Row) (row : KeyedRow),
      Single (Text.encoding text) s → Row.parse text = .ok cells →
      KeyedRow.parse k text = .ok row →
        (c.column ≠ k → run c k s = .ok (if c.passes cells then [row] else [])) ∧
        (c.column = k → run c k s = .ok (if c.filterIfMissing then [] else [row])) := by
  refine ⟨fun row => KeyedRow.parse_eq_ok_iff, fun cells n => Record.get?_erase, ?_⟩
  intro c s cells row hs hcells hrow
  rw [run_of_parse hs hrow, KeyedRow.cells_of_parse hrow hcells]
  constructor
  · intro hk
    rw [Condition.passes_erase_of_ne hk]
  · rintro rfl
    rw [Condition.passes_erase_column]
    cases c.filterIfMissing <;> rfl

end Scan

end ColumnFilter
