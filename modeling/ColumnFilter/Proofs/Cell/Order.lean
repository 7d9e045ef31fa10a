import ColumnFilter.Cell
import ColumnFilter.Proofs.Numeral.Order
import ColumnFilter.Proofs.Timestamp.DateTime
import Mathlib.Data.Prod.Lex
import Mathlib.Data.Int.Order.Basic

/-! # The order of native values

Two texts that both spell integers are ordered as integers, and two that both
read as a date and time of day as instants. All others, those of two different
kinds among them, are ordered as texts. The order of cells is this one.
-/

namespace ColumnFilter

namespace Timestamp

/-- One of the layouts reads the text as the date and time of day. -/
def Reads (s : List Char) (f : Fields) : Prop :=
  readStrict s = some f ∨ ∃ l ∈ layouts, l.read s = some f

/-- The second in universal time and the nanoseconds in it, a billion more for a leap second. -/
def Fields.instant (f : Fields) : ℤ ×ₗ ℕ :=
  toLex (f.toSeconds, if f.second = 60 then f.nanosecond + 1000000000 else f.nanosecond)

/-- Of a date that exists the days are those that the calendar counts one by one. -/
theorem DateTime.instant_fields {d : DateTime} (h : d.date.Exists) :
    d.fields.instant = d.instant := by
  rw [Fields.instant, toSeconds_fields h, instant, nanoseconds_eq]
  rfl

theorem exists_reads_of_mem_readers {read : List Char → Option Timestamp} (hr : read ∈ readers)
    {s : List Char} {t : Timestamp} (h : read s = some t) :
    ∃ f, Reads s f ∧ f.timestamp? = some t := by
  rcases List.mem_cons.1 hr with rfl | hr
  · obtain ⟨f, hf, ht⟩ := Option.bind_eq_some_iff.1 h
    exact ⟨f, .inl hf, ht⟩
  · obtain ⟨l, hl, rfl⟩ := List.mem_map.1 hr
    obtain ⟨f, hf, ht⟩ := Option.bind_eq_some_iff.1 h
    exact ⟨f, .inr ⟨l, hl, hf⟩, ht⟩

theorem exists_reads_of_ofText? {s : List Char} {t : Timestamp} (h : ofText? s = some t) :
    ∃ f, Reads s f ∧ f.timestamp? = some t := by
  obtain ⟨read, hr, ht⟩ := List.exists_of_findSome?_eq_some h
  exact exists_reads_of_mem_readers hr ht

theorem Fields.instant_eq {f : Fields} {t : Timestamp} (h : f.timestamp? = some t) :
    f.instant = toLex (t.seconds, t.nanoseconds) := by
  obtain ⟨_, h⟩ := Option.ite_none_right_eq_some.1 h
  cases h
  rfl

theorem compare_eq (t u : Timestamp) : t.compare u =
    Ord.compare (toLex (t.seconds, t.nanoseconds)) (toLex (u.seconds, u.nanoseconds)) := by
  rw [Prod.Lex.compare_def]
  rfl

end Timestamp

namespace Cell

open Text (Blanks)

/-- The text spells the integer between blanks. -/
def IsInteger (raw : String) (x : ℤ) : Prop :=
  ∃ u s v, Blanks u ∧ Numeral.Spells s x ∧ Blanks v ∧ raw.toList = u ++ s ++ v

/-- The text stands for a timestamp, which is what its layout makes of the date and time of day. -/
def IsTime (raw : String) (f : Timestamp.Fields) : Prop :=
  ∃ t, ofText raw = .time t ∧ Timestamp.Reads (Text.trim raw.toList) f ∧ f.timestamp? = some t

/-- The order of two texts by the values of one kind that both have, or else as texts. -/
inductive NativeOrder (a b : String) : Ordering → Prop
  | integers {x y : ℤ} : IsInteger a x → IsInteger b y → NativeOrder a b (Ord.compare x y)
  | instants {f g : Timestamp.Fields} :
      IsTime a f → IsTime b g → NativeOrder a b (Ord.compare f.instant g.instant)
  | texts : ¬ ((∃ x, IsInteger a x) ∧ ∃ y, IsInteger b y) →
      ¬ ((∃ f, IsTime a f) ∧ ∃ g, IsTime b g) →
      NativeOrder a b (Ord.compare (Text.codePoints a) (Text.codePoints b))

theorem ofText_eq_integer_iff {raw : String} {n : Numeral} :
    ofText raw = .integer n ↔ Numeral.ofText? (Text.trim raw.toList) = some n := by
  simp only [ofText]
  split
  next m h => rw [h, Option.some.injEq, integer.injEq]
  next h => split <;> simp [h]

theorem ofText_eq_time {raw : String} {t : Timestamp} (h : ofText raw = .time t) :
    Timestamp.ofText? (Text.trim raw.toList) = some t := by
  simp only [ofText] at h
  split at h
  · cases h
  split at h
  · cases h
    assumption
  · cases h

theorem ofText_eq_text {raw s : String} (h : ofText raw = .text s) : s = raw := by
  simp only [ofText] at h
  split at h
  · cases h
  split at h <;> cases h
  rfl

theorem isInteger_iff {raw : String} {x : ℤ} :
    IsInteger raw x ↔ ∃ n, ofText raw = .integer n ∧ n.toInt = x := by
  simp only [ofText_eq_integer_iff, ← Numeral.spells_iff]
  constructor
  · rintro ⟨u, s, v, hu, hs, hv, hr⟩
    have hb := hs.not_isBlank
    have ht : Text.trim s = s := Text.trim_of_ends (fun c hc => hb c (List.mem_of_mem_head? hc))
      fun c hc => hb c (List.mem_reverse.1 (List.mem_of_mem_head? hc))
    rwa [hr, Text.trim_append hu hv, ht]
  · intro h
    obtain ⟨u, v, hu, hv, hr⟩ := Text.exists_eq_append_trim raw.toList
    exact ⟨u, _, v, hu, h, hv, hr⟩

theorem exists_isInteger_iff {raw : String} :
    (∃ x, IsInteger raw x) ↔ ∃ n, ofText raw = .integer n := by
  simp only [isInteger_iff]
  exact ⟨fun ⟨_, n, h, _⟩ => ⟨n, h⟩, fun ⟨n, h⟩ => ⟨_, n, h, rfl⟩⟩

theorem exists_isTime_iff {raw : String} :
    (∃ f, IsTime raw f) ↔ ∃ t, ofText raw = .time t := by
  constructor
  · rintro ⟨f, t, h, _⟩
    exact ⟨t, h⟩
  · rintro ⟨t, h⟩
    obtain ⟨f, hf, ht⟩ := Timestamp.exists_reads_of_ofText? (ofText_eq_time h)
    exact ⟨f, t, h, hf, ht⟩

theorem order_of_isInteger {a b : String} {x y : ℤ} (ha : IsInteger a x) (hb : IsInteger b y) :
    order a b = Ord.compare x y := by
  obtain ⟨m, hm, rfl⟩ := isInteger_iff.1 ha
  obtain ⟨n, hn, rfl⟩ := isInteger_iff.1 hb
  have hnm := Numeral.normal_of_ofText? (ofText_eq_integer_iff.1 hm)
  have hnn := Numeral.normal_of_ofText? (ofText_eq_integer_iff.1 hn)
  rw [order, hm, hn, compare?, Option.getD_some, Numeral.compare_eq hnm hnn]

theorem order_of_isTime {a b : String} {f g : Timestamp.Fields} (ha : IsTime a f)
    (hb : IsTime b g) : order a b = Ord.compare f.instant g.instant := by
  obtain ⟨t, ht, _, hf⟩ := ha
  obtain ⟨u, hu, _, hg⟩ := hb
  rw [order, ht, hu, compare?, Option.getD_some, Timestamp.compare_eq,
    Timestamp.Fields.instant_eq hf, Timestamp.Fields.instant_eq hg]

theorem order_of_not {a b : String}
    (hi : ¬ ((∃ n, ofText a = .integer n) ∧ ∃ n, ofText b = .integer n))
    (ht : ¬ ((∃ t, ofText a = .time t) ∧ ∃ t, ofText b = .time t)) :
    order a b = Ord.compare a b := by
  unfold order
  cases ha : ofText a with
  | integer m =>
    cases hb : ofText b with
    | integer n => exact absurd ⟨⟨m, ha⟩, n, hb⟩ hi
    | time u => rfl
    | text s => rfl
  | time t =>
    cases hb : ofText b with
    | integer n => rfl
    | time u => exact absurd ⟨⟨t, ha⟩, u, hb⟩ ht
    | text s => rfl
  | text r =>
    cases hb : ofText b with
    | integer n => rfl
    | time u => rfl
    | text s => rw [ofText_eq_text ha, ofText_eq_text hb, compare?, Option.getD_some]

theorem nativeOrder_iff {a b : String} {o : Ordering} : NativeOrder a b o ↔ order a b = o := by
  constructor
  · intro h
    cases h with
    | integers ha hb => exact order_of_isInteger ha hb
    | instants ha hb => exact order_of_isTime ha hb
    | texts hi ht =>
      rw [exists_isInteger_iff, exists_isInteger_iff] at hi
      rw [exists_isTime_iff, exists_isTime_iff] at ht
      rw [order_of_not hi ht, Text.compare_codePoints]
  · rintro rfl
    by_cases hi : (∃ x, IsInteger a x) ∧ ∃ y, IsInteger b y
    · obtain ⟨⟨x, ha⟩, y, hb⟩ := hi
      exact order_of_isInteger ha hb ▸ .integers ha hb
    by_cases ht : (∃ f, IsTime a f) ∧ ∃ g, IsTime b g
    · obtain ⟨⟨f, ha⟩, g, hb⟩ := ht
      exact order_of_isTime ha hb ▸ .instants ha hb
    have h := NativeOrder.texts hi ht
    rw [exists_isInteger_iff, exists_isInteger_iff] at hi
    rw [exists_isTime_iff, exists_isTime_iff] at ht
    rwa [order_of_not hi ht, ← Text.compare_codePoints]

end Cell

end ColumnFilter
