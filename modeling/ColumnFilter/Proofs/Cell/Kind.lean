import ColumnFilter.Comparator
import ColumnFilter.Proofs.Cell.Order
import ColumnFilter.Proofs.Numeral.NormalForm

/-! # Kinds of texts

A text is of the kind of its value. Texts of one kind are ordered by their
values, and texts of two kinds as texts, so the order is turned round when two
texts change places, and texts of two kinds never stand as equals. Three texts
are in one order unless two of them are integers or timestamps and the third is
not.
-/

namespace ColumnFilter

namespace Comparator

variable {op : Comparator}

theorem admits_lessOrEqual (o : Ordering) : lessOrEqual.admits o = o.isLE := by
  cases o <;> rfl

theorem admits_greaterOrEqual (o : Ordering) : greaterOrEqual.admits o = o.isGE := by
  cases o <;> rfl

theorem admits_trans {α : Type} [Ord α] [Std.TransOrd α] (hop : op ≠ notEqual) {x y z : α}
    (h : op.admits (compare x y) = true) (h' : op.admits (compare y z) = true) :
    op.admits (compare x z) = true := by
  cases op with
  | notEqual => exact absurd rfl hop
  | equal => exact beq_iff_eq.2 (Std.TransCmp.eq_trans (beq_iff_eq.1 h) (beq_iff_eq.1 h'))
  | less => exact beq_iff_eq.2 (Std.TransCmp.lt_trans (beq_iff_eq.1 h) (beq_iff_eq.1 h'))
  | greater => exact beq_iff_eq.2 (Std.TransCmp.gt_trans (beq_iff_eq.1 h) (beq_iff_eq.1 h'))
  | lessOrEqual =>
    rw [admits_lessOrEqual] at *
    exact Std.TransCmp.isLE_trans h h'
  | greaterOrEqual =>
    rw [admits_greaterOrEqual] at *
    exact Std.TransCmp.isGE_trans h h'

end Comparator

theorem Numeral.Normal.compare_eq_eq_iff {m n : Numeral} (hm : m.Normal) (hn : n.Normal) :
    m.compare n = .eq ↔ m = n := by
  rw [compare_eq hm hn, compare_eq_iff_eq]
  exact ⟨hm.eq_of_toInt_eq hn, congrArg toInt⟩

theorem Timestamp.compare_eq_eq_iff {t u : Timestamp} :
    t.compare u = .eq ↔ t.sameInstant u = true := by
  rw [compare, Ordering.then_eq_eq, compare_eq_iff_eq, compare_eq_iff_eq, sameInstant,
    Bool.and_eq_true, beq_iff_eq, beq_iff_eq]

namespace Cell

open Std (OrientedOrd ReflOrd LawfulEqOrd)

inductive Kind
  | integer
  | time
  | text
deriving DecidableEq, Repr

def kind : Cell → Kind
  | integer _ => .integer
  | time _ => .time
  | text _ => .text

/-- The kind of the value that a text stands for. -/
def kindOf (raw : String) : Kind := (ofText raw).kind

/-- Both texts spell one integer, or are timestamps of one instant, or are one text that has no
other value. -/
inductive SameValue (a b : String) : Prop
  | integers {x : ℤ} : IsInteger a x → IsInteger b x → SameValue a b
  | instants {f g : Timestamp.Fields} :
      IsTime a f → IsTime b g → f.instant = g.instant → SameValue a b
  | texts : kindOf a = .text → a = b → SameValue a b

variable {a b c : String} {x y : Cell} {o : Ordering} {op : Comparator}

theorem kindOf_eq_integer_iff : kindOf a = .integer ↔ ∃ x, IsInteger a x := by
  rw [exists_isInteger_iff, kindOf]
  cases ofText a <;> simp [kind]

theorem kindOf_eq_time_iff : kindOf a = .time ↔ ∃ f, IsTime a f := by
  rw [exists_isTime_iff, kindOf]
  cases ofText a <;> simp [kind]

theorem order_of_kindOf (h : kindOf a = kindOf b → kindOf a = .text) :
    order a b = compare a b := by
  refine order_of_not ?_ ?_
  · rw [← exists_isInteger_iff, ← exists_isInteger_iff, ← kindOf_eq_integer_iff,
      ← kindOf_eq_integer_iff]
    rintro ⟨ha, hb⟩
    exact absurd (ha.symm.trans (h (ha.trans hb.symm))) (by decide)
  · rw [← exists_isTime_iff, ← exists_isTime_iff, ← kindOf_eq_time_iff, ← kindOf_eq_time_iff]
    rintro ⟨ha, hb⟩
    exact absurd (ha.symm.trans (h (ha.trans hb.symm))) (by decide)

theorem NativeOrder.swap (h : NativeOrder a b o) : NativeOrder b a o.swap := by
  cases h with
  | integers ha hb =>
    rw [← OrientedOrd.eq_swap]
    exact .integers hb ha
  | instants ha hb =>
    rw [← OrientedOrd.eq_swap]
    exact .instants hb ha
  | texts hi ht =>
    rw [← OrientedOrd.eq_swap]
    exact .texts (fun h => hi h.symm) fun h => ht h.symm

theorem order_swap (a b : String) : order b a = (order a b).swap :=
  nativeOrder_iff.1 (nativeOrder_iff.2 rfl).swap

theorem order_self (a : String) : order a a = .eq := by
  have h := order_swap a a
  revert h
  cases order a a <;> decide

/-- Texts of two kinds are two texts, and are compared as such. -/
theorem kindOf_eq_of_order (h : order a b = .eq) : kindOf a = kindOf b := by
  by_contra hk
  rw [order_of_kindOf fun he => absurd he hk] at h
  exact hk (congrArg kindOf (LawfulEqOrd.eq_of_compare h))

theorem order_eq_eq_iff : order a b = .eq ↔ SameValue a b := by
  constructor
  · intro h
    have hk := kindOf_eq_of_order h
    cases ha : kindOf a with
    | integer =>
      obtain ⟨x, hx⟩ := kindOf_eq_integer_iff.1 ha
      obtain ⟨y, hy⟩ := kindOf_eq_integer_iff.1 (hk ▸ ha)
      rw [order_of_isInteger hx hy] at h
      exact .integers hx (LawfulEqOrd.eq_of_compare h ▸ hy)
    | time =>
      obtain ⟨f, hf⟩ := kindOf_eq_time_iff.1 ha
      obtain ⟨g, hg⟩ := kindOf_eq_time_iff.1 (hk ▸ ha)
      rw [order_of_isTime hf hg] at h
      exact .instants hf hg (compare_eq_iff_eq.1 h)
    | text =>
      rw [order_of_kindOf fun _ => ha] at h
      exact .texts ha (LawfulEqOrd.eq_of_compare h)
  · intro h
    cases h with
    | integers ha hb => rw [order_of_isInteger ha hb, ReflOrd.compare_self]
    | instants ha hb h => rw [order_of_isTime ha hb, h, ReflOrd.compare_self]
    | texts _ h => rw [h, order_self]

theorem kind_eq_of_same (h : same x y = true) : x.kind = y.kind := by
  cases x <;> cases y <;> first | rfl | cases h

theorem same_iff : same (ofText a) (ofText b) = true ↔ order a b = .eq := by
  by_cases hk : kindOf a = kindOf b
  case neg =>
    exact iff_of_false (fun h => hk (kind_eq_of_same h)) fun h => hk (kindOf_eq_of_order h)
  rw [kindOf, kindOf] at hk
  cases ha : ofText a with
  | integer m =>
    cases hb : ofText b with
    | integer n =>
      have hm := Numeral.normal_of_ofText? (ofText_eq_integer_iff.1 ha)
      have hn := Numeral.normal_of_ofText? (ofText_eq_integer_iff.1 hb)
      rw [order, ha, hb, same, beq_iff_eq]
      exact (hm.compare_eq_eq_iff hn).symm
    | time _ | text _ =>
      rw [ha, hb] at hk
      cases hk
  | time t =>
    cases hb : ofText b with
    | time u =>
      rw [order, ha, hb, same]
      exact Timestamp.compare_eq_eq_iff.symm
    | integer _ | text _ =>
      rw [ha, hb] at hk
      cases hk
  | text r =>
    cases hb : ofText b with
    | text s =>
      rw [order, ha, hb, same, beq_iff_eq]
      exact (LawfulEqOrd.compare_eq_iff_eq (a := r)).symm
    | integer _ | time _ =>
      rw [ha, hb] at hk
      cases hk

theorem cases_of_count {p q r : Kind} (hi : [p, q, r].count .integer ≠ 2)
    (ht : [p, q, r].count .time ≠ 2) :
    (p = .integer ∧ q = .integer ∧ r = .integer) ∨ (p = .time ∧ q = .time ∧ r = .time) ∨
      (p = q → p = .text) ∧ (q = r → q = .text) ∧ (p = r → p = .text) := by
  revert hi ht
  cases p <;> cases q <;> cases r <;> decide

/-- Three texts of which not just two are integers, nor just two timestamps, are in one order. -/
theorem admits_order_trans (hi : [kindOf a, kindOf b, kindOf c].count .integer ≠ 2)
    (ht : [kindOf a, kindOf b, kindOf c].count .time ≠ 2) (hop : op ≠ .notEqual)
    (h : op.admits (order a b) = true) (h' : op.admits (order b c) = true) :
    op.admits (order a c) = true := by
  rcases cases_of_count hi ht with ⟨ha, hb, hc⟩ | ⟨ha, hb, hc⟩ | ⟨hab, hbc, hac⟩
  · obtain ⟨x, hx⟩ := kindOf_eq_integer_iff.1 ha
    obtain ⟨y, hy⟩ := kindOf_eq_integer_iff.1 hb
    obtain ⟨z, hz⟩ := kindOf_eq_integer_iff.1 hc
    rw [order_of_isInteger hx hy] at h
    rw [order_of_isInteger hy hz] at h'
    rw [order_of_isInteger hx hz]
    exact Comparator.admits_trans hop h h'
  · obtain ⟨f, hf⟩ := kindOf_eq_time_iff.1 ha
    obtain ⟨g, hg⟩ := kindOf_eq_time_iff.1 hb
    obtain ⟨e, he⟩ := kindOf_eq_time_iff.1 hc
    rw [order_of_isTime hf hg] at h
    rw [order_of_isTime hg he] at h'
    rw [order_of_isTime hf he]
    exact Comparator.admits_trans hop h h'
  · -- With one integer and one timestamp at most, each two of the three are compared as texts.
    rw [order_of_kindOf hab] at h
    rw [order_of_kindOf hbc] at h'
    rw [order_of_kindOf hac]
    exact Comparator.admits_trans hop h h'

theorem order_eq_trans (h : order a b = .eq) (h' : order b c = .eq) : order a c = .eq := by
  have hthree (k l : Kind) : [k, k, k].count l ≠ 2 := by cases k <;> cases l <;> decide
  have hk : [kindOf a, kindOf b, kindOf c] = [kindOf a, kindOf a, kindOf a] := by
    rw [kindOf_eq_of_order h, kindOf_eq_of_order h']
  have ho : Comparator.equal.admits (order a c) = true :=
    admits_order_trans (hk ▸ hthree _ _) (hk ▸ hthree _ _) (by decide) (beq_iff_eq.2 h)
      (beq_iff_eq.2 h')
  exact beq_iff_eq.1 ho

theorem order_eq_equivalence : Equivalence fun a b => order a b = .eq where
  refl := order_self
  symm {a b} h := by rw [order_swap a b, h]; rfl
  trans := order_eq_trans

end Cell

end ColumnFilter
