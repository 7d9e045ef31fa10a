import ColumnFilter.Proofs.Condition.Verdict
import ColumnFilter.Proofs.Scan.Rows

/-! # Opposite conditions

Whether and how a scan fails is the same for all conditions. Where scans succeed,
two conditions with opposite comparators share out the rows that have the column,
each row to one of them, and agree on the rows that lack it.
-/

namespace ColumnFilter

/-- The comparator that holds just where the given one does not. -/
def Comparator.opposite : Comparator → Comparator
  | equal => notEqual
  | notEqual => equal
  | less => greaterOrEqual
  | greaterOrEqual => less
  | greater => lessOrEqual
  | lessOrEqual => greater

theorem Comparator.admits_opposite (op : Comparator) (o : Ordering) :
    op.opposite.admits o = !op.admits o := by
  cases op <;> cases o <;> rfl

namespace Condition

variable {c : Condition} {row : Row}

def opposite (c : Condition) : Condition := { c with comparator := c.comparator.opposite }

theorem passes_opposite_of_present {raw : String} (h : row.get? c.column = some raw) :
    c.opposite.passes row = !c.passes row := by
  have h' : row.get? c.opposite.column = some raw := h
  rw [passes_of_present h, passes_of_present h', ← Comparator.admits_opposite]
  rfl

theorem passes_opposite_of_absent (h : row.get? c.column = none) :
    c.opposite.passes row = c.passes row := by
  have h' : row.get? c.opposite.column = none := h
  rw [passes_of_absent h, passes_of_absent h']
  rfl

end Condition

namespace Scan

variable {c : Condition} {rows kept others : List KeyedRow}

/-- Rows are shared out to two lists in their order: one with the column to either of them, and one
without the column to both, or to none if the condition drops such rows. -/
inductive Shared (c : Condition) : List KeyedRow → List KeyedRow → List KeyedRow → Prop
  | nil : Shared c [] [] []
  | left {row : KeyedRow} {rows kept others : List KeyedRow} {raw : String} :
      row.cells.get? c.column = some raw → Shared c rows kept others →
      Shared c (row :: rows) (row :: kept) others
  | right {row : KeyedRow} {rows kept others : List KeyedRow} {raw : String} :
      row.cells.get? c.column = some raw → Shared c rows kept others →
      Shared c (row :: rows) kept (row :: others)
  | both {row : KeyedRow} {rows kept others : List KeyedRow} :
      row.cells.get? c.column = none → c.filterIfMissing = false → Shared c rows kept others →
      Shared c (row :: rows) (row :: kept) (row :: others)
  | neither {row : KeyedRow} {rows kept others : List KeyedRow} :
      row.cells.get? c.column = none → c.filterIfMissing = true → Shared c rows kept others →
      Shared c (row :: rows) kept others

theorem Shared.sublist (h : Shared c rows kept others) :
    kept.Sublist rows ∧ others.Sublist rows := by
  induction h with
  | nil => exact ⟨.refl _, .refl _⟩
  | left _ _ ih => exact ⟨ih.1.cons_cons _, ih.2.cons _⟩
  | right _ _ ih => exact ⟨ih.1.cons _, ih.2.cons_cons _⟩
  | both _ _ _ ih => exact ⟨ih.1.cons_cons _, ih.2.cons_cons _⟩
  | neither _ _ _ ih => exact ⟨ih.1.cons _, ih.2.cons _⟩

theorem shared_passing (c : Condition) (rows : List KeyedRow) :
    Shared c rows (passing c rows) (passing c.opposite rows) := by
  induction rows with
  | nil => exact .nil
  | cons row rows ih =>
    rw [passing, passing, List.filter_cons, List.filter_cons]
    cases hr : row.cells.get? c.column with
    | some raw =>
      rw [Condition.passes_opposite_of_present hr]
      cases hp : c.passes row.cells with
      | true => exact .left hr ih
      | false => exact .right hr ih
    | none =>
      rw [Condition.passes_opposite_of_absent hr, Condition.passes_of_absent hr]
      cases hm : c.filterIfMissing with
      | true => exact .neither hr hm ih
      | false => exact .both hr hm ih

/-- A scan that fails under one condition fails under all, and else the lines hold rows. -/
theorem exists_error_or_rows (k : String) (bytes : List UInt8) :
    (∃ e, ∀ c, run c k bytes = .error e) ∨ ∃ rows, Rows k (lines bytes) rows := by
  -- Any condition tells the two cases apart.
  cases h : run ⟨"", "", .equal, "", false, true⟩ k bytes with
  | error e =>
    have hbad := run_eq_error_iff_firstBadLine.1 h
    exact .inl ⟨e, fun c => run_eq_error_iff_firstBadLine.2 hbad⟩
  | ok kept =>
    obtain ⟨rows, hrows, -⟩ := readLines_eq_ok_iff.1 h
    exact .inr ⟨rows, hrows⟩

/-- Either a scan fails under every condition with one and the same error, or the rows of the lines
are shared out between each two conditions with opposite comparators, in the order of the lines. -/
theorem run_opposite (k : String) (bytes : List UInt8) :
    (∃ e, ∀ c, run c k bytes = .error e) ∨
    ∃ rows, (∀ others, Rows k (lines bytes) others ↔ others = rows) ∧
      ∀ c, ∃ kept others, run c k bytes = .ok kept ∧ run c.opposite k bytes = .ok others ∧
        Shared c rows kept others ∧ kept.Sublist rows ∧ others.Sublist rows := by
  rcases exists_error_or_rows k bytes with h | ⟨rows, hrows⟩
  · exact .inl h
  refine .inr ⟨rows, fun others => ⟨hrows.unique, fun h => h ▸ hrows⟩, fun c => ?_⟩
  have hshared := shared_passing c rows
  exact ⟨_, _, readLines_of_rows hrows, readLines_of_rows hrows, hshared, hshared.sublist⟩

end Scan

end ColumnFilter
