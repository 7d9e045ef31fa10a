import ColumnFilter.Proofs.Cell.Kind

/-! # Padded texts

What a text is read as is decided without the blanks around it, but a text that
is neither an integer nor a timestamp stands for itself with its blanks. So a
text that is padded keeps its kind, and two texts of one kind that keep their
values keep their order.
-/

namespace ColumnFilter

open Text (Blanks)

theorem Text.trim_padded {u v : String} (hu : Blanks u.toList) (hv : Blanks v.toList)
    (r : String) : trim (u ++ r ++ v).toList = trim r.toList := by
  rw [String.toList_append, String.toList_append]
  exact trim_append hu hv r.toList

namespace Cell

/-- The value with another text in the place of one that stands for itself. -/
def withText (s : String) : Cell → Cell
  | text _ => text s
  | x => x

variable {a b a' b' r s u v u' v' : String} {x y : Cell}

@[simp] theorem kind_withText (s : String) (x : Cell) : (x.withText s).kind = x.kind := by
  cases x <;> rfl

theorem withText_of_kind_ne (h : x.kind ≠ .text) : x.withText s = x := by
  cases x with
  | integer | time => rfl
  | text => exact absurd rfl h

theorem withText_of_kind_eq (h : x.kind = .text) : x.withText s = .text s := by
  cases x with
  | integer | time => cases h
  | text => rfl

/-- Texts that differ only in the blanks around them have one value, or each has its own text. -/
theorem ofText_of_trim_eq (h : Text.trim s.toList = Text.trim r.toList) :
    ofText s = (ofText r).withText s := by
  simp only [ofText, h]
  cases Numeral.ofText? (Text.trim r.toList) with
  | some n => rfl
  | none => cases Timestamp.ofText? (Text.trim r.toList) <;> rfl

theorem ofText_padded (hu : Blanks u.toList) (hv : Blanks v.toList) (r : String) :
    ofText (u ++ r ++ v) = (ofText r).withText (u ++ r ++ v) :=
  ofText_of_trim_eq (Text.trim_padded hu hv r)

theorem kindOf_padded (hu : Blanks u.toList) (hv : Blanks v.toList) (r : String) :
    kindOf (u ++ r ++ v) = kindOf r := by
  rw [kindOf, ofText_padded hu hv, kind_withText, kindOf]

theorem ofText_padded_of_kindOf_ne (hu : Blanks u.toList) (hv : Blanks v.toList)
    (hr : kindOf r ≠ .text) : ofText (u ++ r ++ v) = ofText r := by
  rw [ofText_padded hu hv, withText_of_kind_ne hr]

theorem isSome_compare? (h : x.kind = y.kind) : (x.compare? y).isSome := by
  cases x <;> cases y <;> first | rfl | cases h

/-- The texts themselves are asked for an order only where their values are of two kinds. -/
theorem order_congr (ha : ofText a' = ofText a) (hb : ofText b' = ofText b)
    (h : kindOf a = kindOf b) : order a' b' = order a b := by
  obtain ⟨o, ho⟩ := Option.isSome_iff_exists.1 (isSome_compare? h)
  rw [order, order, ha, hb, ho, Option.getD_some, Option.getD_some]

theorem order_padded (hu : Blanks u.toList) (hv : Blanks v.toList) (hu' : Blanks u'.toList)
    (hv' : Blanks v'.toList) (h : kindOf a = kindOf b) (ha : kindOf a ≠ .text) :
    order (u ++ a ++ v) (u' ++ b ++ v') = order a b := by
  have hb : kindOf b ≠ .text := h ▸ ha
  exact order_congr (ofText_padded_of_kindOf_ne hu hv ha) (ofText_padded_of_kindOf_ne hu' hv' hb) h

end Cell

end ColumnFilter
