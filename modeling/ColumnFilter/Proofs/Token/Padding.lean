import ColumnFilter.Proofs.Token.Faults

/-! # Tokens of padded texts

Blanks in front of a text move its tokens on by as many bytes as they take, and
what stops the reading with them. Blanks behind a text change nothing, not even
where they come to stand in a literal that is not closed.
-/

namespace ColumnFilter

namespace Text

open Quoted

theorem Quoted.encode_append (s t : List Char) : encode (s ++ t) = encode s ++ encode t := by
  induction s with
  | nil => rfl
  | cons c s ih => rw [List.cons_append, encode_cons, ih, encode_cons, List.append_assoc]

theorem Blanks.encode_eq {v : List Char} (h : Blanks v) : encode v = v := by
  induction v with
  | nil => rfl
  | cons c v ih =>
    obtain ⟨hc, hv⟩ := blanks_cons.1 h
    have hm : c ≠ mark := by
      rintro rfl
      exact absurd hc (by decide)
    rw [encode_cons, if_neg hm, ih hv, List.singleton_append]

end Text

def Placed.moved (k : ℕ) (p : Placed) : Placed := ⟨p.token, k + p.offset⟩

def LexicalError.moved (k : ℕ) : LexicalError → LexicalError
  | strayCharacter c offset => .strayCharacter c (k + offset)
  | unclosedLiteral offset => .unclosedLiteral (k + offset)

namespace Token

open Text (isBlank Blanks Ends byteLength)

variable {c : Char} {s u v : List Char} {offset : ℕ} {e : LexicalError}

section Offset

variable (k offset : ℕ)

theorem read_add (c : Char) (s : List Char) :
    read (k + offset) c s = (read offset c s).mapError (LexicalError.moved k) := by
  unfold read
  split_ifs
  all_goals try rfl
  cases Text.Quoted.read s <;> rfl

theorem readAll_add (s : List Char) : readAll (k + offset) s =
    ((readAll offset s).mapError (LexicalError.moved k)).map (List.map (Placed.moved k)) := by
  fun_induction readAll offset s with
  | case1 offset =>
    rw [readAll]
    rfl
  | case2 offset c s hc ih => rw [readAll_of_isBlank hc, Nat.add_assoc, ih]
  | case3 offset c s hc e he =>
    have hr : read (k + offset) c s = .error (e.moved k) := by
      rw [read_add, he]
      rfl
    rw [readAll_of_stops (stops_of_read (by simpa using hc) hr)]
    rfl
  | case4 offset c s hc t rest hr _ ih =>
    have hr' : read (k + offset) c s = .ok (t, rest) := by
      rw [read_add, hr]
      rfl
    rw [readAll_of_read (by simpa using hc) hr', Nat.add_assoc, ih]
    cases readAll (offset + byteLength t.chars) rest <;> rfl

end Offset

section Behind

/-- Blanks behind a text do not close a literal. -/
theorem Stops.append_blanks (h : Stops offset c s e) (hv : Blanks v) :
    Stops offset c (s ++ v) e := by
  cases h with
  | stray hc => exact .stray hc
  | unclosed hs =>
    obtain ⟨text, rfl⟩ := hs
    exact .unclosed ⟨text ++ v, by rw [Text.Quoted.encode_append, hv.encode_eq]⟩

theorem ends_append_blanks (t : Token) (h : Ends t.absorbs s) (hv : Blanks v) :
    Ends t.absorbs (s ++ v) := by
  cases s with
  | nil => exact fun c hc => not_absorbs_of_isBlank t (hv c (List.mem_of_mem_head? hc))
  | cons d s => exact Text.ends_cons.2 (Text.ends_cons.1 h)

theorem readAll_append_blanks (hv : Blanks v) (offset : ℕ) (s : List Char) :
    readAll offset (s ++ v) = readAll offset s := by
  fun_induction readAll offset s with
  | case1 offset => exact readAll_of_laid (.done hv)
  | case2 offset c s hc ih => rw [List.cons_append, readAll_of_isBlank hc, ih]
  | case3 offset c s hc e he =>
    exact readAll_of_stops ((stops_of_read (by simpa using hc) he).append_blanks hv)
  | case4 offset c s hc t rest hr _ ih =>
    obtain ⟨hs, ht, hends⟩ := read_eq_ok_iff.1 hr
    have hr' : read offset c (s ++ v) = .ok (t, rest ++ v) := by
      refine read_eq_ok_iff.2 ⟨?_, ht, ends_append_blanks t hends hv⟩
      rw [← List.cons_append, hs, List.append_assoc]
    rw [List.cons_append, readAll_of_read (by simpa using hc) hr', ih]

end Behind

theorem tokenize_padded {u v : String} (hu : Blanks u.toList) (hv : Blanks v.toList)
    (input : String) : tokenize (u ++ input ++ v) =
      ((tokenize input).mapError (LexicalError.moved u.utf8ByteSize)).map
        (List.map (Placed.moved u.utf8ByteSize)) := by
  have hk : u.utf8ByteSize = byteLength u.toList := by
    rw [← Text.utf8ByteSize_ofList_eq, String.ofList_toList]
  rw [tokenize, String.toList_append, String.toList_append, readAll_append_blanks hv,
    readAll_blanks_append hu, Nat.zero_add, hk]
  exact readAll_add _ 0 _

end Token

end ColumnFilter
