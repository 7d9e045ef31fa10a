import ColumnFilter.Proofs.Scan.Composition

/-! # The first bad line

A scan fails at the first line that is no text or no row, whether or not lines
before it hold rows that pass. So how it fails is a matter of the bytes and of
the key column, and every condition fails alike.
-/

namespace ColumnFilter.Scan

variable {c : Condition} {k : String} {n : ℕ} {line : List UInt8} {ls : List (List UInt8)}
  {e : ScanError}

/-- A line that ends a scan under its number, and the error that it ends with. -/
inductive BadLine (k : String) (number : ℕ) (line : List UInt8) : ScanError → Prop
  | notText : (¬ ∃ text, Text.encoding text = line) → BadLine k number line (.input .notText)
  | notRow {text : String} {e : RowError} : Text.encoding text = line →
      ¬ Text.Blanks text.toList → KeyedRow.parse k text = .error e →
      BadLine k number line (.row number e)

inductive FirstBadLine (k : String) : ℕ → List (List UInt8) → ScanError → Prop
  | here {number : ℕ} {line : List UInt8} {rest : List (List UInt8)} {e : ScanError} :
      BadLine k number line e → FirstBadLine k number (line :: rest) e
  | later {number : ℕ} {line : List UInt8} {rest : List (List UInt8)} {e : ScanError} :
      (∀ e, ¬ BadLine k number line e) → FirstBadLine k (number + 1) rest e →
      FirstBadLine k number (line :: rest) e

theorem encoding_inj {s t : String} (h : Text.encoding s = Text.encoding t) : s = t :=
  Except.ok.inj ((File.decode_eq_ok_iff.2 h).symm.trans (File.decode_eq_ok_iff.2 rfl))

theorem not_badLine_of_parse {text : String} {row : KeyedRow}
    (h : KeyedRow.parse k text = .ok row) : ¬ BadLine k n (Text.encoding text) e := by
  intro hbad
  cases hbad with
  | notText ht => exact ht ⟨text, rfl⟩
  | notRow ht hb he =>
    rw [encoding_inj ht, h] at he
    cases he

theorem readLine_eq_error_iff : readLine c k n line = .error e ↔ BadLine k n line e := by
  constructor
  · intro h
    by_cases ht : ∃ text, Text.encoding text = line
    · obtain ⟨text, ht⟩ := ht
      by_cases hb : Text.Blanks text.toList
      · cases (readLine_of_blanks ht hb).symm.trans h
      rw [readLine_of_not_blanks ht hb] at h
      cases hrow : KeyedRow.parse k text with
      | error e' =>
        rw [hrow] at h
        cases h
        exact .notRow ht hb hrow
      | ok row =>
        rw [hrow] at h
        cases h
    · cases (readLine_of_not_encoding ht).symm.trans h
      exact .notText ht
  · intro h
    cases h with
    | notText ht => exact readLine_of_not_encoding ht
    | notRow ht hb he => rw [readLine_of_not_blanks ht hb, he]

theorem readLines_eq_error_iff : readLines c k n ls = .error e ↔ FirstBadLine k n ls e := by
  induction ls generalizing n with
  | nil => exact iff_of_false nofun nofun
  | cons line ls ih =>
    rw [readLines, Outcome.bind_eq_error_iff, readLine_eq_error_iff]
    simp only [Outcome.bind_eq_error_iff, ih]
    constructor
    · rintro (h | ⟨first, hfirst, h | ⟨_, -, h⟩⟩)
      · exact .here h
      · refine .later (fun e' he' => ?_) h
        rw [readLine_eq_error_iff.2 he'] at hfirst
        cases hfirst
      · cases h
    · intro h
      cases h with
      | here h => exact .inl h
      | later hgood h =>
        cases hfirst : readLine c k n line with
        | error e' => exact absurd (readLine_eq_error_iff.1 hfirst) (hgood e')
        | ok first => exact .inr ⟨first, rfl, .inl h⟩

/-- A scan fails just at the first bad line, and under every condition. -/
theorem run_eq_error_iff_firstBadLine {bytes : List UInt8} :
    run c k bytes = .error e ↔ FirstBadLine k 1 (lines bytes) e :=
  readLines_eq_error_iff

end ColumnFilter.Scan
