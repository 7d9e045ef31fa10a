import ColumnFilter.Proofs.Row.Keyed
import ColumnFilter.Proofs.Scan.Faults

/-! # The rows of a scan

A scan that succeeds has read a row from every line that is not blank. Which rows
these are is a matter of the bytes and of the key column, and the scan keeps those
of them that pass, in their order.
-/

namespace ColumnFilter.Scan

variable {c : Condition} {k : String} {n : ℕ} {line : List UInt8} {ls : List (List UInt8)}
  {rows kept : List KeyedRow}

/-- The rows that lines hold, one for each line that is not blank. -/
inductive Rows (k : String) : List (List UInt8) → List KeyedRow → Prop
  | nil : Rows k [] []
  | blank {line : List UInt8} {ls : List (List UInt8)} {rows : List KeyedRow} {text : String} :
      Text.encoding text = line → Text.Blanks text.toList → Rows k ls rows →
      Rows k (line :: ls) rows
  | row {line : List UInt8} {ls : List (List UInt8)} {rows : List KeyedRow} {text : String}
      {row : KeyedRow} : Text.encoding text = line → KeyedRow.parse k text = .ok row →
      Rows k ls rows → Rows k (line :: ls) (row :: rows)

def passing (c : Condition) (rows : List KeyedRow) : List KeyedRow :=
  rows.filter fun row => c.passes row.cells

theorem passing_cons (c : Condition) (row : KeyedRow) (rows : List KeyedRow) :
    passing c (row :: rows) = passing c [row] ++ passing c rows :=
  List.filter_append [row] rows

theorem readLine_of_parse {text : String} {row : KeyedRow} (ht : Text.encoding text = line)
    (hrow : KeyedRow.parse k text = .ok row) : readLine c k n line = .ok (passing c [row]) := by
  rw [readLine_of_not_blanks ht (KeyedRow.not_blanks_of_parse hrow), hrow, passing,
    List.filter_singleton, Bool.cond_eq_ite]

theorem cases_of_readLine (h : readLine c k n line = .ok kept) :
    ∃ text, Text.encoding text = line ∧
      (Text.Blanks text.toList ∨ ∃ row, KeyedRow.parse k text = .ok row) := by
  by_cases ht : ∃ text, Text.encoding text = line
  · obtain ⟨text, ht⟩ := ht
    refine ⟨text, ht, or_iff_not_imp_left.2 fun hb => ?_⟩
    rw [readLine_of_not_blanks ht hb] at h
    cases hrow : KeyedRow.parse k text with
    | error e =>
      rw [hrow] at h
      cases h
    | ok row => exact ⟨row, rfl⟩
  · cases (readLine_of_not_encoding ht).symm.trans h

theorem readLines_of_rows (h : Rows k ls rows) : readLines c k n ls = .ok (passing c rows) := by
  induction h generalizing n with
  | nil => rfl
  | blank ht hb _ ih =>
    rw [readLines, readLine_of_blanks ht hb, ih]
    rfl
  | @row _ _ rows _ row ht hrow _ ih =>
    rw [readLines, readLine_of_parse ht hrow, ih, passing_cons c row rows]
    rfl

theorem exists_rows_of_readLines (h : readLines c k n ls = .ok kept) : ∃ rows, Rows k ls rows := by
  induction ls generalizing n kept with
  | nil => exact ⟨[], .nil⟩
  | cons line ls ih =>
    obtain ⟨first, hfirst, h⟩ := Outcome.bind_eq_ok_iff.1 h
    obtain ⟨others, hothers, -⟩ := Outcome.bind_eq_ok_iff.1 h
    obtain ⟨rows, hrows⟩ := ih hothers
    obtain ⟨text, ht, hb | ⟨row, hrow⟩⟩ := cases_of_readLine hfirst
    · exact ⟨rows, .blank ht hb hrows⟩
    · exact ⟨row :: rows, .row ht hrow hrows⟩

/-- Of the rows on lines those are kept that pass. -/
theorem readLines_eq_ok_iff :
    readLines c k n ls = .ok kept ↔ ∃ rows, Rows k ls rows ∧ kept = passing c rows := by
  constructor
  · intro h
    obtain ⟨rows, hrows⟩ := exists_rows_of_readLines h
    exact ⟨rows, hrows, Except.ok.inj (h.symm.trans (readLines_of_rows hrows))⟩
  · rintro ⟨rows, hrows, rfl⟩
    exact readLines_of_rows hrows

theorem Rows.exists_parse (h : Rows k ls rows) :
    ∀ row ∈ rows, ∃ text, KeyedRow.parse k text = .ok row := by
  induction h with
  | nil => simp
  | blank _ _ _ ih => exact ih
  | row _ hrow _ ih => exact List.forall_mem_cons.2 ⟨⟨_, hrow⟩, ih⟩

/-- Lines hold the rows that they hold and no others. -/
theorem Rows.unique {others : List KeyedRow} (h : Rows k ls rows) (h' : Rows k ls others) :
    others = rows := by
  induction h generalizing others with
  | nil =>
    cases h'
    rfl
  | @blank line ls rows text ht hb _ ih =>
    cases h' with
    | blank _ _ h' => exact ih h'
    | row ht' hrow _ =>
      rw [encoding_inj (ht'.trans ht.symm)] at hrow
      exact absurd hb (KeyedRow.not_blanks_of_parse hrow)
  | @row line ls rows text row ht hrow _ ih =>
    cases h' with
    | blank ht' hb _ =>
      rw [encoding_inj (ht'.trans ht.symm)] at hb
      exact absurd hb (KeyedRow.not_blanks_of_parse hrow)
    | row ht' hrow' h' =>
      rw [encoding_inj (ht'.trans ht.symm), hrow] at hrow'
      obtain rfl := Except.ok.inj hrow'
      rw [ih h']

end ColumnFilter.Scan
