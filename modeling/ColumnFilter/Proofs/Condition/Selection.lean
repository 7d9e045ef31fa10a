import ColumnFilter.Proofs.Cell.Written
import ColumnFilter.Proofs.Condition.RoundTrip
import ColumnFilter.Proofs.Condition.Verdict
import ColumnFilter.Proofs.Numeral.NormalForm
import Mathlib.Data.Option.Defs

/-! # Rows selected by native values

Where the cells of a column and the literal all are texts of integers, or all
of dates and times, a condition that is written and read again keeps the rows
whose value compares to that of the literal as the comparator says.
-/

namespace ColumnFilter

def Comparator.holds {α : Type} [LinearOrder α] (op : Comparator) (x y : α) : Bool :=
  match op with
  | equal => x = y
  | notEqual => x ≠ y
  | less => x < y
  | lessOrEqual => x ≤ y
  | greater => x > y
  | greaterOrEqual => x ≥ y

theorem Comparator.admits_compare {α : Type} [LinearOrder α] (op : Comparator) (x y : α) :
    op.admits (compare x y) = op.holds x y := by
  rcases lt_trichotomy x y with h | rfl | h
  · rw [compare_lt_iff_lt.2 h]
    cases op <;> simp [admits, holds, h, h.le, h.ne]
  · rw [compare_eq_iff_eq.2 rfl]
    cases op <;> simp [admits, holds]
  · rw [compare_gt_iff_gt.2 h]
    cases op <;> simp [admits, holds, h, h.le, h.ne']

namespace Condition

open Timestamp (DateTime)

/-- The verdict on a native value, or on the lack of one. -/
def selects {α : Type} [LinearOrder α] (c : Condition) (y : α) : Option α → Bool
  | some x => c.comparator.holds x y
  | none => !c.filterIfMissing

section Native

variable {α β : Type} [LinearOrder β] {c : Condition} {spells : String → α → Prop} (key : α → β)
  {y : α}

theorem passes_eq_selects {row : Row} {x? : Option α}
    (horder : ∀ raw x, spells raw x → Cell.order raw c.value = compare (key x) (key y))
    (h : Option.Rel spells (row.get? c.column) x?) :
    c.passes row = c.selects (key y) (x?.map key) := by
  cases hr : row.get? c.column with
  | none =>
    rw [hr] at h
    cases h
    exact passes_of_absent hr
  | some raw =>
    rw [hr] at h
    obtain ⟨h⟩ := h
    rw [passes_of_present hr, horder _ _ h, Comparator.admits_compare]
    rfl

theorem map_keep_parse_render {rows : List Row} {value? : Row → Option α} (hf : c.family ≠ "")
    (hq : c.qualifier ≠ "")
    (horder : ∀ raw x, spells raw x → Cell.order raw c.value = compare (key x) (key y))
    (h : ∀ row ∈ rows, Option.Rel spells (row.get? c.column) (value? row)) :
    (parse c.render).map (·.keep rows) =
      .ok (rows.filter fun row => c.selects (key y) ((value? row).map key)) := by
  have hp : parse c.render = .ok c := by
    rw [parse, read_render, ofArguments_writtenArguments, if_neg hf, if_neg hq]
    rfl
  rw [hp]
  exact congrArg Except.ok (List.filter_congr fun row hr => passes_eq_selects key horder (h row hr))

end Native

/-- A condition on two names that is written and read again keeps, in their order, the rows whose
value compares to the literal's as the comparator says, and those without the column if it keeps
such rows. This holds of integers in decimal digits, and of dates and times in the internet profile,
which compare as instants; each of them has such a text. -/
theorem keep_parse_render (c : Condition) (hf : c.family ≠ "") (hq : c.qualifier ≠ "")
    (rows : List Row) :
    (∀ (y : ℤ) (value? : Row → Option ℤ), Numeral.Spells c.value.toList y →
        (∀ row ∈ rows, Option.Rel (fun raw x => Numeral.Spells raw.toList x)
          (row.get? c.column) (value? row)) →
        (parse c.render).map (·.keep rows) =
          .ok (rows.filter fun row => c.selects y (value? row))) ∧
      (∀ (y : DateTime) (value? : Row → Option DateTime), y.Spells c.value.toList →
        (∀ row ∈ rows, Option.Rel (fun raw x => DateTime.Spells raw.toList x)
          (row.get? c.column) (value? row)) →
        (parse c.render).map (·.keep rows) =
          .ok (rows.filter fun row =>
            c.selects y.instant ((value? row).map DateTime.instant))) ∧
      (∀ x : ℤ, Numeral.Spells (toString x).toList x) ∧
      ∀ d : DateTime, (∃ s, d.Spells s) ↔
        d.Exists ∧ d.date.year < 10000 ∧ d.nanosecond < 10 ^ 9 ∧ 60 ∣ d.offset := by
  refine ⟨fun y value? hy hv => ?_, fun y value? hy hv => ?_, Numeral.spells_toString,
    fun d => DateTime.exists_spells_iff⟩
  · have h := map_keep_parse_render id (y := y) hf hq (fun raw x hx => ?_) hv
    · simpa using h
    · exact Cell.order_of_isInteger ⟨[], _, [], Text.blanks_nil, hx, Text.blanks_nil, by simp⟩
        ⟨[], _, [], Text.blanks_nil, hy, Text.blanks_nil, by simp⟩
  · exact map_keep_parse_render DateTime.instant hf hq
      (fun raw x hx => Cell.order_of_spells hx hy) hv

def berlin : DateTime := ⟨⟨2018, 4, 4⟩, 5, 50, 0, 500000000, 7200⟩

def greenwich : DateTime := ⟨⟨2018, 4, 4⟩, 3, 50, 0, 500000000, 0⟩

def seenAtGreenwich : Condition :=
  ⟨"d", "seen", .equal, "2018-04-04 03:50:00.500z", true, false⟩

def rowOfBerlin : Row := .ofList [("d:seen", "2018-04-04T05:50:00.5+02:00")]

theorem spells_berlin : berlin.Spells "2018-04-04T05:50:00.5+02:00".toList := by
  have hd : berlin.Exists := by decide
  have hf : Timestamp.billionths [5] = berlin.nanosecond := by decide
  have hz : Timestamp.SpellsZone (Timestamp.offsetChars false true 2 0) berlin.offset :=
    .offset false (by decide) (by decide)
  exact .intro (c := 'T') hd (by decide) (by decide) hf hz

theorem spells_greenwich : greenwich.Spells seenAtGreenwich.value.toList := by
  have hd : greenwich.Exists := by decide
  have hf : Timestamp.billionths [5, 0, 0] = greenwich.nanosecond := by decide
  exact .intro (c := ' ') hd (by decide) (by decide) hf (.universal (c := 'z') (by decide))

theorem instant_berlin : berlin.instant = greenwich.instant := by
  rw [DateTime.instant, DateTime.instant, ← DateTime.toSeconds_fields (d := berlin) (by decide),
    ← DateTime.toSeconds_fields (d := greenwich) (by decide)]
  decide

/-- The row with the other clock is kept, and the one without the column is not. -/
theorem keep_parse_render_seen :
    (parse seenAtGreenwich.render).map (·.keep [rowOfBerlin, .empty]) = .ok [rowOfBerlin] := by
  have hr : rowOfBerlin.get? "d:seen" = some "2018-04-04T05:50:00.5+02:00" := by decide
  have he : (Record.empty : Row).get? "d:seen" = none := rfl
  have hv : ∀ row ∈ [rowOfBerlin, .empty], Option.Rel (fun raw x => DateTime.Spells raw.toList x)
      (row.get? seenAtGreenwich.column) ((row.get? "d:seen").map fun _ => berlin) :=
    List.forall_mem_cons.2 ⟨.some spells_berlin, List.forall_mem_singleton.2 .none⟩
  have hkept : seenAtGreenwich.selects greenwich.instant (some berlin.instant) = true := by
    simp [seenAtGreenwich, selects, Comparator.holds, instant_berlin]
  have hdropped : ¬ seenAtGreenwich.selects greenwich.instant none = true := Bool.false_ne_true
  rw [(keep_parse_render seenAtGreenwich (by decide) (by decide) _).2.1 greenwich _
    spells_greenwich hv, List.filter_cons_of_pos (by rw [hr]; exact hkept),
    List.filter_cons_of_neg (by rw [he]; exact hdropped), List.filter_nil]

end Condition

end ColumnFilter
