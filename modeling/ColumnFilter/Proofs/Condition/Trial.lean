import ColumnFilter.Proofs.Cell.Padding
import ColumnFilter.Proofs.Condition.Verdict
import ColumnFilter.Proofs.Record

/-! # Trials of a cell against a literal

What a condition says of a row that has the column depends on the comparator,
the text of the cell and the literal alone, so that a comparator relates texts.
Equality is an equivalence of texts that never leaves a kind, each comparator
has its mirror image, and order is transitive as long as all three comparisons
are of one sort. Blanks around texts count only where a text that is neither an
integer nor a timestamp is compared, or texts of two kinds.
-/

namespace ColumnFilter

/-- The comparator that says the same with the two sides in each other's place. -/
def Comparator.mirrored : Comparator → Comparator
  | equal => equal
  | notEqual => notEqual
  | less => greater
  | lessOrEqual => greaterOrEqual
  | greater => less
  | greaterOrEqual => lessOrEqual

theorem Comparator.admits_mirrored (op : Comparator) (o : Ordering) :
    op.mirrored.admits o.swap = op.admits o := by
  cases op <;> cases o <;> rfl

namespace Condition

open Cell (SameValue kindOf)
open Text (Blanks)

/-- A row that holds the one text, put to the test by a condition that compares with the other. -/
structure Trial (op : Comparator) (a b : String) where
  condition : Condition
  row : Row
  comparator_eq : condition.comparator = op
  value_eq : condition.value = b
  get?_eq : row.get? condition.column = some a

namespace Trial

variable {op : Comparator} {a b c : String}

def passes (t : Trial op a b) : Bool := t.condition.passes t.row

def single (family qualifier : String) (op : Comparator) (a b : String) : Trial op a b where
  condition := { family, qualifier, comparator := op, value := b }
  row := Record.empty.put (family ++ ":" ++ qualifier) a
  comparator_eq := rfl
  value_eq := rfl
  get?_eq := by rw [Record.get?_put, column, if_pos rfl]

instance : Inhabited (Trial op a b) := ⟨single "" "" op a b⟩

/-- All trials of two texts by one comparator end alike. -/
theorem passes_eq (t : Trial op a b) : t.passes = op.admits (Cell.order a b) := by
  obtain ⟨c, row, rfl, rfl, h⟩ := t
  exact passes_of_present h

theorem passes_equal_iff (t : Trial .equal a b) : t.passes = true ↔ Cell.order a b = .eq := by
  rw [t.passes_eq]
  exact beq_iff_eq

theorem forall_passes_equal_iff :
    (∀ t : Trial .equal a b, t.passes = true) ↔ Cell.order a b = .eq :=
  ⟨fun h => (passes_equal_iff default).1 (h default), fun h t => t.passes_equal_iff.2 h⟩

/-- A cell equals a literal just where their values are the same, which are then of one kind, and
this is an equivalence of texts. -/
theorem passes_equal_iff_same :
    (∀ (a b : String) (t : Trial .equal a b),
      (t.passes = true ↔ Cell.same (Cell.ofText a) (Cell.ofText b) = true) ∧
      (t.passes = true ↔ SameValue a b) ∧
      (kindOf a ≠ kindOf b → t.passes = false)) ∧
    Equivalence fun a b => ∀ t : Trial .equal a b, t.passes = true := by
  refine ⟨fun a b t => ⟨?_, ?_, fun hk => ?_⟩, ?_⟩
  · rw [t.passes_equal_iff, Cell.same_iff]
  · rw [t.passes_equal_iff, Cell.order_eq_eq_iff]
  · rw [Bool.eq_false_iff, Ne, t.passes_equal_iff]
    exact fun h => hk (Cell.kindOf_eq_of_order h)
  · simp only [forall_passes_equal_iff]
    exact Cell.order_eq_equivalence

/-- What is asked of a first and a second text and of the second and a third one carries over to the
first and the third, unless just two of them are integers or just two are timestamps. -/
theorem passes_trans (hi : [kindOf a, kindOf b, kindOf c].count .integer ≠ 2)
    (ht : [kindOf a, kindOf b, kindOf c].count .time ≠ 2) (hop : op ≠ .notEqual)
    (t : Trial op a b) (u : Trial op b c) (v : Trial op a c) (h : t.passes = true)
    (h' : u.passes = true) : v.passes = true := by
  rw [passes_eq] at *
  exact Cell.admits_order_trans hi ht hop h h'

theorem passes_trans_kinds :
    [kindOf "12", kindOf "2018-04-04T07:10:49Z", kindOf "jon"] = [.integer, .time, .text] ∧
      (single "a" "b" .less "12" "2018-04-04T07:10:49Z").passes = true ∧
      (single "a" "b" .less "2018-04-04T07:10:49Z" "jon").passes = true ∧
      ∀ t : Trial .less "12" "jon", t.passes = true := by
  have hk : [kindOf "12", kindOf "2018-04-04T07:10:49Z", kindOf "jon"] =
    [.integer, .time, .text] := by decide
  have h : (single "a" "b" .less "12" "2018-04-04T07:10:49Z").passes = true := by decide
  have h' : (single "a" "b" .less "2018-04-04T07:10:49Z" "jon").passes = true := by decide
  exact ⟨hk, h, h', fun t =>
    passes_trans (by rw [hk]; decide) (by rw [hk]; decide) (by decide) _ _ t h h'⟩

/-- Nine comes before ten, and ten as a text before what is no number, but nine does not. -/
example : (single "a" "b" .less "9" "10").passes = true ∧
    (single "a" "b" .less "10" "1x").passes = true ∧
    (single "a" "b" .less "9" "1x").passes = false := by decide

/-- With cell and literal in each other's place the mirrored comparator says the same. A cell is
either less than a literal, or equal to it, or greater. -/
theorem passes_mirrored (a b : String) :
    (∀ (op : Comparator) (t : Trial op a b) (u : Trial op.mirrored b a), t.passes = u.passes) ∧
      ∀ (t : Trial .less a b) (u : Trial .equal a b) (v : Trial .greater a b),
        [t.passes, u.passes, v.passes].count true = 1 := by
  constructor
  · intro op t u
    rw [t.passes_eq, u.passes_eq, Cell.order_swap a b, Comparator.admits_mirrored]
  · intro t u v
    rw [t.passes_eq, u.passes_eq, v.passes_eq]
    cases Cell.order a b <;> rfl

/-- Blanks around a text change neither its kind nor the integer or the timestamp that it is, and a
text that is none keeps them. So two integers get one verdict, and two timestamps do, whatever
blanks stand around the cell and around the literal. -/
theorem passes_padded {u v : String} (hu : Blanks u.toList) (hv : Blanks v.toList) :
    (∀ r : String, kindOf (u ++ r ++ v) = kindOf r ∧
      (kindOf r ≠ .text → Cell.ofText (u ++ r ++ v) = Cell.ofText r) ∧
      (kindOf r = .text → Cell.ofText (u ++ r ++ v) = .text (u ++ r ++ v))) ∧
    ∀ (op : Comparator) (a b u' v' : String), Blanks u'.toList → Blanks v'.toList →
      kindOf a = kindOf b → kindOf a ≠ .text →
        ∀ (t : Trial op a b) (t' : Trial op (u ++ a ++ v) (u' ++ b ++ v')),
          t'.passes = t.passes := by
  constructor
  · intro r
    refine ⟨Cell.kindOf_padded hu hv r, Cell.ofText_padded_of_kindOf_ne hu hv, fun hr => ?_⟩
    rw [Cell.ofText_padded hu hv, Cell.withText_of_kind_eq hr]
  · intro op a b u' v' hu' hv' hk ha t t'
    rw [t'.passes_eq, t.passes_eq, Cell.order_padded hu hv hu' hv' hk ha]

/-- An integer, a blank text and a moment between an ideographic blank and a line feed. The moment
still equals the same one by another clock, which has blanks of its own. -/
theorem passes_padded_ideographic :
    Cell.ofText "\u3000 -07\n" = .integer ⟨true, ['7']⟩ ∧
      Cell.ofText "\u3000\n" = .text "\u3000\n" ∧
      ∀ t : Trial .equal "\u30002018-04-04T07:10:49Z\n" "\t2018-04-04 09:10:49+02:00\u0085",
        t.passes = true := by
  have hu : Blanks "\u3000".toList := by decide
  have hv : Blanks "\n".toList := by decide
  obtain ⟨hvalue, hverdict⟩ := passes_padded hu hv
  have hk : kindOf "2018-04-04T07:10:49Z" = kindOf "2018-04-04 09:10:49+02:00" := by decide
  have h : (single "a" "b" .equal "2018-04-04T07:10:49Z" "2018-04-04 09:10:49+02:00").passes =
    true := by decide
  refine ⟨((hvalue " -07").2.1 (by decide)).trans (by decide), (hvalue "").2.2 (by decide),
    fun t => ?_⟩
  exact (hverdict .equal _ _ "\t" "\u0085" (by decide) (by decide) hk (by decide) _ t).trans h

/-- As a text, nine comes behind ten, unless it has a blank before it. -/
example : (single "a" "b" .less "9" "10x").passes = false ∧
    (single "a" "b" .less " 9" "10x").passes = true := by decide

end Trial

end Condition

end ColumnFilter
