import ColumnFilter.Condition.Verdict
import ColumnFilter.Proofs.Cell.Order

/-! # Verdicts by native order

The verdict on a row is what the comparator says of the native order of the
cell and the literal. Where the column is absent neither of them is asked.
-/

namespace ColumnFilter

namespace Condition

open Cell (NativeOrder)
open Timestamp (DateTime)

theorem passes_of_absent {c : Condition} {row : Row} (h : row.get? c.column = none) :
    c.passes row = !c.filterIfMissing := by
  rw [passes, h]

theorem passes_of_present {c : Condition} {row : Row} {raw : String}
    (h : row.get? c.column = some raw) :
    c.passes row = c.comparator.admits (Cell.order raw c.value) := by
  rw [passes, h]
  rfl

/-- A cell passes when the comparator admits its native order to the literal, and a row without the
column when such rows are kept. Texts are in the order of their code points and of their bytes, and
instants are those of the calendar, less the offset. -/
theorem passes_eq_admits_nativeOrder (c : Condition) (row : Row) :
    (row.get? c.column = none → c.passes row = !c.filterIfMissing) ∧
      (∀ raw, row.get? c.column = some raw → (∃! o, NativeOrder raw c.value o) ∧
        ∀ o, NativeOrder raw c.value o → c.passes row = c.comparator.admits o) ∧
      (∀ s t, compare (Text.encoding s) (Text.encoding t) =
        compare (Text.codePoints s) (Text.codePoints t)) ∧
      ∀ d : DateTime, d.date.Exists → d.fields.instant = d.instant := by
  refine ⟨passes_of_absent, fun raw h => ⟨?_, fun o ho => ?_⟩, Text.compare_encoding,
    fun d => DateTime.instant_fields⟩
  · refine ⟨Cell.order raw c.value, Cell.nativeOrder_iff.2 rfl, fun o ho => ?_⟩
    exact (Cell.nativeOrder_iff.1 ho).symm
  · rw [passes_of_present h, Cell.nativeOrder_iff.1 ho]

def clockAhead : DateTime := ⟨⟨2018, 4, 4⟩, 5, 50, 0, 500000000, 7200⟩

def clockBehind : DateTime := ⟨⟨2018, 4, 4⟩, 3, 50, 0, 0, -1800⟩

/-- By its own clock the first time is two hours later, and it is before the second one all the
same. As texts they are the other way round. -/
theorem passes_eq_admits_nativeOrder_offsets :
    clockAhead.instant = toLex (1522813800, 500000000) ∧
      clockBehind.instant = toLex (1522815600, 0) ∧
      NativeOrder "2018-04-04T05:50:00.5+02:00" "2018-04-04 03:50-00:30" .lt ∧
      passes ⟨"a", "b", .less, "2018-04-04 03:50-00:30", true, true⟩
        (Record.empty.put "a:b" "2018-04-04T05:50:00.5+02:00") = true ∧
      compare (Text.codePoints "2018-04-04T05:50:00.5+02:00")
        (Text.codePoints "2018-04-04 03:50-00:30") = .gt := by
  obtain ⟨-, hcell, -, hinstant⟩ := passes_eq_admits_nativeOrder
    ⟨"a", "b", .less, "2018-04-04 03:50-00:30", true, true⟩
    (Record.empty.put "a:b" "2018-04-04T05:50:00.5+02:00")
  have ha : clockAhead.instant = toLex (1522813800, 500000000) := by
    rw [← hinstant clockAhead (by decide)]
    decide
  have hb : clockBehind.instant = toLex (1522815600, 0) := by
    rw [← hinstant clockBehind (by decide)]
    decide
  have hta : Cell.IsTime "2018-04-04T05:50:00.5+02:00" clockAhead.fields :=
    ⟨⟨1522813800, 500000000, 7200⟩, by decide +kernel, .inl (by decide +kernel), by decide⟩
  have htb : Cell.IsTime "2018-04-04 03:50-00:30" clockBehind.fields :=
    ⟨⟨1522815600, 0, -1800⟩, by decide +kernel,
      .inr ⟨⟨none, false⟩, by decide, by decide +kernel⟩, by decide⟩
  have ho : NativeOrder "2018-04-04T05:50:00.5+02:00" "2018-04-04 03:50-00:30" .lt := by
    have ho := NativeOrder.instants hta htb
    rwa [hinstant _ (by decide), hinstant _ (by decide), ha, hb] at ho
  have hp := (hcell "2018-04-04T05:50:00.5+02:00" (by decide)).2 .lt ho
  exact ⟨ha, hb, ho, hp.trans rfl, by decide⟩

end Condition

end ColumnFilter
