import ColumnFilter.Proofs.Outcome
import ColumnFilter.Proofs.Scan.Lines
import ColumnFilter.Proofs.Text.Order
import ColumnFilter.Proofs.Text.Runs

/-! # Scans line by line

Bytes that end with a line are scanned apart from those that follow them, except
that the lines of the latter are numbered from a later line on. So the first bad
line decides how a scan fails, and what a scan keeps is kept in its order.
-/

namespace ColumnFilter

namespace File

theorem encoding_eq_iff {text : String} {bytes : List UInt8} :
    Text.encoding text = bytes ↔ text.toByteArray = ⟨bytes.toArray⟩ := by
  rw [Text.encoding, String.toUTF8_eq_toByteArray]
  constructor
  · rintro rfl
    rw [Array.toArray_toList]
  · intro h
    rw [h]

theorem decode_eq_ok_iff {bytes : List UInt8} {text : String} :
    decode bytes = .ok text ↔ Text.encoding text = bytes := by
  rw [encoding_eq_iff, decode, String.fromUTF8?]
  by_cases hv : (ByteArray.mk bytes.toArray).IsValidUTF8
  · rw [dif_pos hv, Except.ok.injEq, ← String.toByteArray_inj, eq_comm]
    rfl
  · rw [dif_neg hv]
    refine iff_of_false (by simp) fun h => hv ?_
    exact h ▸ text.isValidUTF8

theorem decode_eq_error {bytes : List UInt8} (h : ¬ ∃ text, Text.encoding text = bytes) :
    decode bytes = .error .notText := by
  cases hd : decode bytes with
  | ok text => exact absurd ⟨text, decode_eq_ok_iff.1 hd⟩ h
  | error e =>
    unfold decode at hd
    split at hd <;> cases hd
    rfl

end File

namespace ScanError

def shift (n : Nat) : ScanError → ScanError
  | input e => input e
  | row line e => row (line + n) e

@[simp] theorem shift_zero (e : ScanError) : e.shift 0 = e := by cases e <;> rfl

theorem shift_shift (m n : Nat) (e : ScanError) : (e.shift m).shift n = e.shift (m + n) := by
  cases e <;> simp [shift, Nat.add_assoc]

end ScanError

namespace Scan

variable (c : Condition) (keyColumn : String)

theorem readLine_add (m n : Nat) (line : List UInt8) :
    readLine c keyColumn (m + n) line = (readLine c keyColumn m line).mapError (·.shift n) := by
  unfold readLine
  split
  · rfl
  split
  · rfl
  split <;> rfl

theorem readLines_add (m n : Nat) (ls : List (List UInt8)) :
    readLines c keyColumn (m + n) ls = (readLines c keyColumn m ls).mapError (·.shift n) := by
  induction ls generalizing m with
  | nil => rfl
  | cons line ls ih =>
    rw [readLines, readLines, readLine_add, Nat.add_right_comm, ih]
    cases readLine c keyColumn m line with
    | error e => rfl
    | ok first => cases readLines c keyColumn (m + 1) ls <;> rfl

theorem readLines_append (n : Nat) (as bs : List (List UInt8)) :
    readLines c keyColumn n (as ++ bs) = do
      let first ← readLines c keyColumn n as
      let others ← readLines c keyColumn (n + as.length) bs
      return first ++ others := by
  induction as generalizing n with
  | nil => exact (bind_pure (readLines c keyColumn n bs)).symm
  | cons line as ih =>
    have hn : n + 1 + as.length = n + (line :: as).length := by
      rw [List.length_cons]
      omega
    simp only [List.cons_append, readLines, ih, hn, bind_assoc, pure_bind, List.append_assoc]

/-- What follows closed bytes is scanned like a file of its own with the lines numbered on. -/
theorem run_append {a : List UInt8} (ha : Closed a) (b : List UInt8) :
    run c keyColumn (a ++ b) = do
      let first ← run c keyColumn a
      let others ← (run c keyColumn b).mapError (·.shift (a.count 10))
      return first ++ others := by
  rw [run, lines_append ha, readLines_append, length_lines ha, readLines_add]
  rfl

theorem run_single {line s : List UInt8} (h : Single line s) :
    run c keyColumn s = readLine c keyColumn 1 line := by
  rw [run, h.lines_eq, readLines]
  cases readLine c keyColumn 1 line with
  | error e => rfl
  | ok rows => exact congrArg Except.ok (List.append_nil rows)

variable {c keyColumn}

theorem run_append_of_error {a : List UInt8} (ha : Closed a) {e : ScanError}
    (h : run c keyColumn a = .error e) (b : List UInt8) :
    run c keyColumn (a ++ b) = .error e := by
  rw [run_append c keyColumn ha, h]
  rfl

theorem run_append_of_ok {a b : List UInt8} (ha : Closed a) {rows rows' : List KeyedRow}
    (h : run c keyColumn a = .ok rows) (h' : run c keyColumn b = .ok rows') :
    run c keyColumn (a ++ b) = .ok (rows ++ rows') := by
  rw [run_append c keyColumn ha, h, h']
  rfl

theorem run_append_of_ok_of_error {a b : List UInt8} (ha : Closed a) {rows : List KeyedRow}
    {e : ScanError} (h : run c keyColumn a = .ok rows) (h' : run c keyColumn b = .error e) :
    run c keyColumn (a ++ b) = .error (e.shift (a.count 10)) := by
  rw [run_append c keyColumn ha, h, h']
  rfl

variable (c keyColumn) in
/-- The bytes hold a first bad line, behind lines that are good, and that is why they are bad. -/
inductive FirstBad : List UInt8 → ScanError → Prop
  | intro {pre line s post : List UInt8} {rows : List KeyedRow} {e : ScanError} :
      Closed pre → run c keyColumn pre = .ok rows →
      Single line s → (post ≠ [] → Closed s) → run c keyColumn s = .error e →
      FirstBad (pre ++ s ++ post) (e.shift (pre.count 10))

theorem FirstBad.append {t rest : List UInt8} {e : ScanError} {rows : List KeyedRow}
    (ht : Closed t) (hr : run c keyColumn t = .ok rows) (h : FirstBad c keyColumn rest e) :
    FirstBad c keyColumn (t ++ rest) (e.shift (t.count 10)) := by
  cases h with
  | @intro pre line s post _ e hp hpr hs hc he =>
    rw [ScanError.shift_shift, Nat.add_comm, ← List.count_append, ← List.append_assoc,
      ← List.append_assoc]
    exact .intro (ht.append hp) (run_append_of_ok ht hr hpr) hs hc he

/-- A scan fails with the error of the first bad line, with its number among all lines. -/
theorem run_eq_error_iff {s : List UInt8} {e : ScanError} :
    run c keyColumn s = .error e ↔ FirstBad c keyColumn s e := by
  constructor
  · intro h
    induction s using lines_induction generalizing e with
    | nil => cases h
    | bare line hl hne =>
      simpa using FirstBad.intro (.inl rfl) rfl (.bare hl hne) (fun h => absurd rfl h) h
    | terminated line t rest ht ih =>
      cases hr : run c keyColumn t with
      | error e' =>
        rw [run_append_of_error ht.closed hr] at h
        cases h
        simpa using FirstBad.intro (.inl rfl) rfl (.terminated ht) (fun _ => ht.closed) hr
      | ok rows =>
        cases hr' : run c keyColumn rest with
        | error e' =>
          rw [run_append_of_ok_of_error ht.closed hr hr'] at h
          cases h
          exact (ih hr').append ht.closed hr
        | ok rows' =>
          rw [run_append_of_ok ht.closed hr hr'] at h
          cases h
  · intro h
    cases h with
    | @intro pre line s post rows e hp hr hs hc he =>
      have he' : run c keyColumn (s ++ post) = .error e := by
        by_cases hpost : post = []
        · rwa [hpost, List.append_nil]
        · exact run_append_of_error (hc hpost) he post
      rw [List.append_assoc, run_append_of_ok_of_error hp hr he']

section Single

variable {n : ℕ} {line s : List UInt8} {text : String}

theorem readLine_of_not_encoding (ht : ¬ ∃ text, Text.encoding text = line) :
    readLine c keyColumn n line = .error (.input .notText) := by
  rw [readLine, File.decode_eq_error ht]

theorem readLine_of_blanks (ht : Text.encoding text = line) (hb : Text.Blanks text.toList) :
    readLine c keyColumn n line = .ok [] := by
  rw [readLine, File.decode_eq_ok_iff.2 ht]
  exact if_pos (Text.all_isBlank_iff.2 hb)

theorem readLine_of_not_blanks (ht : Text.encoding text = line)
    (hb : ¬ Text.Blanks text.toList) : readLine c keyColumn n line =
      match KeyedRow.parse keyColumn text with
      | .error e => .error (.row n e)
      | .ok row => .ok (if c.passes row.cells then [row] else []) := by
  rw [readLine, File.decode_eq_ok_iff.2 ht]
  exact if_neg (mt Text.all_isBlank_iff.1 hb)

theorem run_of_not_encoding (h : Single line s) (ht : ¬ ∃ text, Text.encoding text = line) :
    run c keyColumn s = .error (.input .notText) := by
  rw [run_single c keyColumn h, readLine_of_not_encoding ht]

theorem run_of_blanks (h : Single line s) (ht : Text.encoding text = line)
    (hb : Text.Blanks text.toList) : run c keyColumn s = .ok [] := by
  rw [run_single c keyColumn h, readLine_of_blanks ht hb]

theorem run_of_not_blanks (h : Single line s) (ht : Text.encoding text = line)
    (hb : ¬ Text.Blanks text.toList) : run c keyColumn s =
      match KeyedRow.parse keyColumn text with
      | .error e => .error (.row 1 e)
      | .ok row => .ok (if c.passes row.cells then [row] else []) := by
  rw [run_single c keyColumn h, readLine_of_not_blanks ht hb]

end Single

/-- Scans are put together from scans of single lines. -/
theorem run_compositional (c : Condition) (keyColumn : String) :
    (∀ a b, Closed a →
      (∀ e, run c keyColumn a = .error e → run c keyColumn (a ++ b) = .error e) ∧
      ∀ rows, run c keyColumn a = .ok rows →
        (∀ rows', run c keyColumn b = .ok rows' →
          run c keyColumn (a ++ b) = .ok (rows ++ rows')) ∧
        ∀ e, run c keyColumn b = .error e →
          run c keyColumn (a ++ b) = .error (e.shift (a.count 10))) ∧
    (∀ line s, Single line s →
      ((¬ ∃ text, Text.encoding text = line) → run c keyColumn s = .error (.input .notText)) ∧
      ∀ text, Text.encoding text = line →
        (Text.Blanks text.toList → run c keyColumn s = .ok []) ∧
        (¬ Text.Blanks text.toList →
          (∀ e, KeyedRow.parse keyColumn text = .error e →
            run c keyColumn s = .error (.row 1 e)) ∧
          ∀ row, KeyedRow.parse keyColumn text = .ok row →
            run c keyColumn s = .ok (if c.passes row.cells then [row] else []))) ∧
    ∀ s e, run c keyColumn s = .error e ↔ FirstBad c keyColumn s e := by
  refine ⟨fun a b ha => ⟨fun e h => run_append_of_error ha h b, fun rows h => ⟨?_, ?_⟩⟩, ?_,
    fun s e => run_eq_error_iff⟩
  · exact fun rows' h' => run_append_of_ok ha h h'
  · exact fun e h' => run_append_of_ok_of_error ha h h'
  · intro line s hs
    refine ⟨run_of_not_encoding hs, fun text ht => ⟨run_of_blanks hs ht, fun hb => ⟨?_, ?_⟩⟩⟩
    · intro e he
      rw [run_of_not_blanks hs ht hb, he]
    · intro row hrow
      rw [run_of_not_blanks hs ht hb, hrow]

end Scan

end ColumnFilter
