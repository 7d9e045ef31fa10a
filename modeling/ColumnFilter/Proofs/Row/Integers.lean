import ColumnFilter.Proofs.Cell.Kind
import ColumnFilter.Proofs.Condition.Verdict
import ColumnFilter.Proofs.Json.Integers
import ColumnFilter.Proofs.Row.Members

/-! # Integers in rows

An integer that fits 64 bits stands in a row as it is, and is compared as it
would be if the row held its digits as a string. Any other one stands there as
the text of a double, which is no integer, if there is such a row at all.
-/

namespace ColumnFilter

open Text (Digits)

theorem Decimal.mem_positional (d : Decimal) : '.' ∈ d.positional := by
  unfold positional
  split_ifs <;> simp

theorem Decimal.mem_scientific (d : Decimal) : 'e' ∈ d.scientific := by
  simp [scientific]

theorem Json.exists_mem_realText (x : Float) : ∃ c ∈ ['.', 'e'], c ∈ (realText x).toList := by
  have hw : ∃ c ∈ ['.', 'e'], c ∈ realLayout.write (Decimal.ofFloat x) := by
    unfold Decimal.Layout.write
    split_ifs
    · exact ⟨'.', by decide, Decimal.mem_positional _⟩
    · exact ⟨'.', by decide, Decimal.mem_positional _⟩
    · exact ⟨'e', by decide, Decimal.mem_scientific _⟩
  obtain ⟨c, hc, hm⟩ := hw
  refine ⟨c, hc, ?_⟩
  rw [realText, String.toList_ofList]
  split
  · exact List.mem_cons_of_mem _ hm
  · exact hm

namespace Numeral

variable {n : Numeral}

theorem Spells.mem {s : List Char} {x : ℤ} (h : Spells s x) :
    ∀ c ∈ s, c = '+' ∨ c = '-' ∨ c.isDigit = true := by
  cases h with
  | plain _ hd => exact fun c hc => .inr (.inr (hd c hc))
  | plus _ hd => exact List.forall_mem_cons.2 ⟨.inl rfl, fun c hc => .inr (.inr (hd c hc))⟩
  | minus _ hd => exact List.forall_mem_cons.2 ⟨.inr (.inl rfl), fun c hc => .inr (.inr (hd c hc))⟩

theorem Integral.spells (h : n.Integral) : Spells n.chars n.toInt := by
  have hv : (value n.digits : ℤ) = Text.digitsValue n.digits := by
    rw [value, Text.digitsValue_eq_ofDigits]
  unfold chars toInt
  split
  · exact hv ▸ .minus h.ne_nil h.digits
  · exact hv ▸ .plain h.ne_nil h.digits

end Numeral

namespace Cell

theorem isInteger_of_spells {s : List Char} {x : ℤ} (h : Numeral.Spells s x) :
    IsInteger (String.ofList s) x :=
  ⟨[], s, [], Text.blanks_nil, h, Text.blanks_nil, by simp⟩

theorem isInteger_toString (x : ℤ) : IsInteger (toString x) x := by
  have h := isInteger_of_spells (Numeral.spells_toString x)
  rwa [String.ofList_toList] at h

theorem not_isInteger_realText (x : Float) (k : ℤ) : ¬ IsInteger (Json.realText x) k := by
  rintro ⟨u, s, v, hu, hs, hv, hr⟩
  obtain ⟨c, hc, hm⟩ := Json.exists_mem_realText x
  have hb : Text.isBlank c = false := by
    rcases List.mem_pair.1 hc with rfl | rfl <;> decide
  have hd : ¬ (c = '+' ∨ c = '-' ∨ c.isDigit = true) := by
    rcases List.mem_pair.1 hc with rfl | rfl <;> decide
  rw [hr, List.mem_append, List.mem_append] at hm
  rcases hm with (hm | hm) | hm
  · exact absurd (hu c hm) (by rw [hb]; decide)
  · exact hd (hs.mem c hm)
  · exact absurd (hv c hm) (by rw [hb]; decide)

end Cell

namespace Row

open Cell (IsInteger)
open Json (OneMember SpellsText)

/-- Both texts are rows, and no condition on an integer tells one from the other. -/
def SameVerdicts (text text' : String) : Prop :=
  ∃ row row', parse text = .ok row ∧ parse text' = .ok row' ∧
    ∀ f : Condition, (∃ x, IsInteger f.value x) → f.passes row = f.passes row'

variable {name text digits raw raw' : String} {v : Json} {n : Numeral} {x : ℤ} {f : Condition}

theorem parse_oneMember {t : String} (h : Json.parse text = .ok (.object [(name, v)]))
    (ht : v.scalar? = some t) : parse text = .ok (.ofList [(name, t)]) := by
  have hc : cells [(name, v)] = .ok [(name, t)] := by
    rw [cells_cons_of_scalar? ht]
    rfl
  rw [parse, readObject_of_parse h, Outcome.ok_bind, ofRecord]
  exact congrArg (Except.map Record.ofList) hc

theorem passes_oneMember (f : Condition) (name raw : String) :
    f.passes (.ofList [(name, raw)]) = if f.column = name then
      f.comparator.admits (Cell.order raw f.value) else !f.filterIfMissing := by
  have hget : (Record.ofList [(name, raw)]).get? f.column =
      if f.column = name then some raw else none := by
    rw [Record.get?_ofList]
    simp [Record.lookup?_cons, eq_comm]
  split
  · next hc => exact Condition.passes_of_present (hget.trans (if_pos hc))
  · next hc => exact Condition.passes_of_absent (hget.trans (if_neg hc))

theorem passes_eq_of_isInteger (h : IsInteger raw x) (h' : IsInteger raw' x)
    (hf : ∃ y, IsInteger f.value y) :
    f.passes (.ofList [(name, raw)]) = f.passes (.ofList [(name, raw')]) := by
  obtain ⟨y, hy⟩ := hf
  rw [passes_oneMember, passes_oneMember, Cell.order_of_isInteger h hy,
    Cell.order_of_isInteger h' hy]

/-- A condition that asks for the integer itself tells it from what is none. -/
theorem exists_passes_ne (h : ∀ y, ¬ IsInteger raw y) (h' : IsInteger raw' x)
    (hc : f.column = name) : ∃ g : Condition, (∃ y, IsInteger g.value y) ∧
      g.passes (.ofList [(name, raw)]) ≠ g.passes (.ofList [(name, raw')]) := by
  have hne : Cell.order raw raw' ≠ .eq := by
    intro ho
    have hk := (Cell.kindOf_eq_of_order ho).trans (Cell.kindOf_eq_integer_iff.2 ⟨x, h'⟩)
    obtain ⟨y, hy⟩ := Cell.kindOf_eq_integer_iff.1 hk
    exact h y hy
  have hg : ({ f with comparator := .equal, value := raw' } : Condition).column = name := hc
  refine ⟨{ f with comparator := .equal, value := raw' }, ⟨x, h'⟩, fun he => hne ?_⟩
  rw [passes_oneMember, passes_oneMember, if_pos hg, if_pos hg, Cell.order_self] at he
  exact beq_iff_eq.1 he

theorem parse_of_fits (hn : n.Integral) (ht : OneMember name n.chars text.toList) (hf : n.Fits) :
    parse text = .ok (.ofList [(name, toString n.toInt)]) :=
  parse_oneMember (Json.parse_of_fits hn ht hf) rfl

theorem parse_of_not_fits (hn : n.Integral) (ht : OneMember name n.chars text.toList)
    (hf : ¬ n.Fits) : (∃ x, parse text = .ok (.ofList [(name, Json.realText x)])) ∨
      ∃ e, parse text = .error e := by
  rcases Json.parse_of_not_fits hn ht hf with ⟨x, h⟩ | ⟨e, h⟩
  · exact .inl ⟨x, parse_oneMember h rfl⟩
  · refine .inr ⟨.malformed e text, ?_⟩
    rw [parse, readObject, h]
    rfl

/-- An integer is a cell with its value just if it fits 64 bits, and then no condition on an integer
tells it from its digits in a string. Any other one is a double or none, which they do tell. -/
theorem parse_integer_iff_fits (hn : n.Integral) (ht : OneMember name n.chars text.toList)
    {spelled : List Char} (hs : SpellsText spelled (String.ofList n.chars))
    (hd : OneMember name ('"' :: (spelled ++ ['"'])) digits.toList) :
    ((∃ row raw, parse text = .ok row ∧ row.get? name = some raw ∧ IsInteger raw n.toInt) ↔
        n.Fits) ∧
      (n.Fits → SameVerdicts text digits) ∧
      (¬ n.Fits →
        (∀ row, parse text = .ok row → ∃ x, row.get? name = some (Json.realText x)) ∧
          ∀ f : Condition, f.column = name → ¬ SameVerdicts text digits) := by
  have hstring : parse digits = .ok (.ofList [(name, String.ofList n.chars)]) :=
    parse_oneMember (Json.parse_oneMember_string hs hd) rfl
  have hchars := Cell.isInteger_of_spells hn.spells
  have hget (raw : String) : (Record.ofList [(name, raw)]).get? name = some raw := by
    rw [Record.get?_ofList]
    exact if_pos rfl
  -- A row without a fitting integer holds a double, and no double is an integer.
  have hreal (hf : ¬ n.Fits) {row : Row} (hr : parse text = .ok row) :
      ∃ x, row = .ofList [(name, Json.realText x)] := by
    rcases parse_of_not_fits hn ht hf with ⟨x, h⟩ | ⟨e, h⟩
    · exact ⟨x, Except.ok.inj (hr.symm.trans h)⟩
    · cases hr.symm.trans h
  refine ⟨⟨?_, fun hf => ?_⟩, fun hf => ?_, fun hf => ⟨fun row hr => ?_, ?_⟩⟩
  · rintro ⟨row, raw, hr, hraw, hi⟩
    by_contra hf
    obtain ⟨x, rfl⟩ := hreal hf hr
    rw [hget] at hraw
    exact Cell.not_isInteger_realText x _ (Option.some.inj hraw ▸ hi)
  · exact ⟨_, _, parse_of_fits hn ht hf, hget _, Cell.isInteger_toString _⟩
  · exact ⟨_, _, parse_of_fits hn ht hf, hstring, fun f hv =>
      passes_eq_of_isInteger (Cell.isInteger_toString _) hchars hv⟩
  · obtain ⟨x, rfl⟩ := hreal hf hr
    exact ⟨x, hget _⟩
  · rintro f hc ⟨row, row', hr, hr', hsame⟩
    obtain ⟨x, rfl⟩ := hreal hf hr
    obtain rfl := Except.ok.inj (hstring.symm.trans hr')
    obtain ⟨g, hg, hne⟩ := exists_passes_ne (Cell.not_isInteger_realText x) hchars hc
    exact hne (hsame g hg)

/-- The least integer that fits keeps its value, and the verdicts on its digits. -/
theorem parse_integer_iff_fits_least :
    (∃ row raw, parse "\x7b\"a:n\": -9223372036854775808\x7d" = .ok row ∧
        row.get? "a:n" = some raw ∧ IsInteger raw (-9223372036854775808)) ∧
      SameVerdicts "\x7b\"a:n\": -9223372036854775808\x7d"
        "\x7b\"a:n\": \"-9223372036854775808\"\x7d" := by
  have hn : Numeral.Integral ⟨true, "9223372036854775808".toList⟩ :=
    ⟨Text.all_isDigit_iff.1 (by decide), by decide, by decide⟩
  have hf : Numeral.Fits ⟨true, "9223372036854775808".toList⟩ := by decide
  have ht : OneMember "a:n" (Numeral.chars ⟨true, "9223372036854775808".toList⟩)
      "\x7b\"a:n\": -9223372036854775808\x7d".toList :=
    Json.oneMember_of_toList_eq (by decide)
  have hs : SpellsText "-9223372036854775808".toList
      (String.ofList (Numeral.chars ⟨true, "9223372036854775808".toList⟩)) :=
    Json.spellsText_escaped "-9223372036854775808"
  have hd : OneMember "a:n" ('"' :: ("-9223372036854775808".toList ++ ['"']))
      "\x7b\"a:n\": \"-9223372036854775808\"\x7d".toList :=
    Json.oneMember_of_toList_eq (by decide)
  have h := parse_integer_iff_fits hn ht hs hd
  exact ⟨h.1.2 hf, h.2.1 hf⟩

/-- Two to the 64 becomes a double, which is compared with five as a text, while its digits are
compared with it as an integer. -/
theorem parse_twoPow64 :
    Numeral.Integral ⟨false, "18446744073709551616".toList⟩ ∧
      OneMember "a:n" (Numeral.chars ⟨false, "18446744073709551616".toList⟩)
        "\x7b\"a:n\": 18446744073709551616\x7d".toList ∧
      (parse "\x7b\"a:n\": 18446744073709551616\x7d").map (·.get? "a:n") =
        .ok (some "1.8446744073709552e+19") ∧
      (∀ x, ¬ IsInteger "1.8446744073709552e+19" x) ∧
      (parse "\x7b\"a:n\": 18446744073709551616\x7d").map
        (Condition.passes ⟨"a", "n", .greater, "5", false, true⟩) = .ok false ∧
      (parse "\x7b\"a:n\": \"18446744073709551616\"\x7d").map
        (Condition.passes ⟨"a", "n", .greater, "5", false, true⟩) = .ok true := by
  have hn : Numeral.Integral ⟨false, "18446744073709551616".toList⟩ :=
    ⟨Text.all_isDigit_iff.1 (by decide), by decide, by decide⟩
  have hx (x : ℤ) : ¬ IsInteger "1.8446744073709552e+19" x := by
    intro h
    have hk := Cell.kindOf_eq_integer_iff.2 ⟨x, h⟩
    exact absurd hk (by decide +kernel)
  exact ⟨hn, Json.oneMember_of_toList_eq (by decide), by decide +kernel, hx, by decide +kernel,
    by decide +kernel⟩

end Row

end ColumnFilter
