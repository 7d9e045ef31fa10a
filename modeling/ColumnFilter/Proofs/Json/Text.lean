import ColumnFilter.Json.Text
import Mathlib.Tactic.SplitIfs

/-! # Strings of JSON read back

Every character of a string that is written, escaped or not, is read as itself,
so a string is read back up to its closing quote. What is written of it shows no
control character, and so has no line feed in it.
-/

namespace ColumnFilter.Json

variable {c d : Char} {s after rest : List Char}

theorem readChars_quote (rest : List Char) : readChars ('"' :: rest) = .ok ([], rest) := by
  rw [readChars, if_pos rfl]

theorem readChars_backslash (h : readEscape s = .ok (d, after)) :
    readChars ('\\' :: s) = (readChars after).map fun (text, rest) => (d :: text, rest) := by
  rw [readChars, if_neg (by decide), if_pos rfl]
  split
  · next he => cases h.symm.trans he
  · next he =>
    obtain ⟨rfl, rfl⟩ := Prod.mk.inj (Except.ok.inj (h.symm.trans he))
    rfl

theorem readChars_cons (hq : c ≠ '"') (hb : c ≠ '\\') (hc : 0x20 ≤ c.toNat) (s : List Char) :
    readChars (c :: s) = (readChars s).map fun (text, rest) => (c :: text, rest) := by
  rw [readChars, if_neg hq, if_neg hb, if_neg (by omega)]

theorem unescapeLetter?_of_escapeLetter? (h : escapeLetter? c = some d) :
    d ≠ 'u' ∧ unescapeLetter? d = some c := by
  unfold escapeLetter? at h
  split_ifs at h with h₁ h₂ h₃ h₄ h₅ h₆ h₇
  all_goals
    obtain rfl := Option.some.inj h
    subst c
    decide

theorem hexValue?_hexDigit : ∀ n < 16, Text.hexValue? (hexDigit n) = some n := by decide

theorem readUnit_hexDigit {n : Nat} (hn : n < 0x20) (rest : List Char) :
    readUnit ('0' :: '0' :: hexDigit (n / 16) :: hexDigit (n % 16) :: rest) = .ok (n, rest) := by
  have hzero : Text.hexValue? '0' = some 0 := rfl
  have hunit : hexUnit? ('0' :: '0' :: hexDigit (n / 16) :: hexDigit (n % 16) :: rest) =
      some (n, rest) := by
    simp [hexUnit?, hzero, hexValue?_hexDigit (n / 16) (by omega),
      hexValue?_hexDigit (n % 16) (by omega)]
    omega
  rw [readUnit, hunit]

theorem readUnicode_hexDigit {c : Char} (hc : c.toNat < 0x20) (rest : List Char) :
    readUnicode ('0' :: '0' :: hexDigit (c.toNat / 16) :: hexDigit (c.toNat % 16) :: rest) =
      .ok (c, rest) := by
  have ht : isTrailing c.toNat = false := by
    rw [isTrailing, Bool.and_eq_false_iff, decide_eq_false_iff_not]
    omega
  have hl : isLeading c.toNat = false := by
    rw [isLeading, Bool.and_eq_false_iff, decide_eq_false_iff_not]
    omega
  rw [readUnicode, readUnit_hexDigit hc]
  simp [bind, Except.bind, pure, Except.pure, ht, hl, Char.ofNat_toNat]

theorem readChars_escapeChar (c : Char) (rest : List Char) :
    readChars (escapeChar c ++ rest) =
      (readChars rest).map fun (text, after) => (c :: text, after) := by
  unfold escapeChar
  split
  · next letter h =>
    obtain ⟨hu, hl⟩ := unescapeLetter?_of_escapeLetter? h
    have he : readEscape (letter :: rest) = .ok (c, rest) := by
      rw [readEscape, hl]
      exact hu
    exact readChars_backslash he
  · next h =>
    split
    · next hc =>
      exact readChars_backslash (readUnicode_hexDigit hc rest)
    · next hc =>
      refine readChars_cons ?_ ?_ (by omega) rest
      · rintro rfl
        cases h
      · rintro rfl
        cases h

theorem readChars_escaped (s rest : List Char) :
    readChars (s.flatMap escapeChar ++ '"' :: rest) = .ok (s, rest) := by
  induction s with
  | nil => exact readChars_quote rest
  | cons c s ih =>
    rw [List.flatMap_cons, List.append_assoc, readChars_escapeChar, ih]
    rfl

theorem readString_quoteChars (text : String) (rest : List Char) :
    readString (text.toList.flatMap escapeChar ++ '"' :: rest) = .ok (text, rest) := by
  rw [readString, readChars_escaped]
  exact congrArg (fun t => Except.ok (t, rest)) String.ofList_toList

theorem toNat_of_escapeLetter? (h : escapeLetter? c = some d) : 0x20 ≤ d.toNat := by
  unfold escapeLetter? at h
  split_ifs at h
  all_goals
    obtain rfl := Option.some.inj h
    decide

theorem toNat_hexDigit : ∀ n < 16, 0x20 ≤ (hexDigit n).toNat := by decide

theorem toNat_of_mem_escapeChar : ∀ d ∈ escapeChar c, 0x20 ≤ d.toNat := by
  unfold escapeChar
  split
  · next letter hl => simpa using toNat_of_escapeLetter? hl
  · split
    · next hc =>
      simpa using And.intro (toNat_hexDigit (c.toNat / 16) (by omega))
        (toNat_hexDigit (c.toNat % 16) (by omega))
    · next hc => simpa using hc

theorem toNat_of_mem_quoteChars (h : d ∈ quoteChars s) : 0x20 ≤ d.toNat := by
  have hq : 0x20 ≤ '"'.toNat := by decide
  simp only [quoteChars, List.cons_append, List.mem_cons, List.mem_append, List.mem_flatMap,
    List.not_mem_nil, or_false] at h
  rcases h with rfl | ⟨c, -, h⟩ | rfl
  · exact hq
  · exact toNat_of_mem_escapeChar d h
  · exact hq

end ColumnFilter.Json
