import ColumnFilter.Text.Blank
import ColumnFilter.Text.Size
import ColumnFilter.Token

/-! # Reading tokens

Words and operators are the longest runs of their characters, blanks between
tokens are dropped, and each token is placed at its byte offset. Two things
stop the reading: a character that starts no token and an unclosed literal.
-/

namespace ColumnFilter

inductive LexicalError
  | strayCharacter (c : Char) (offset : Nat)
  | unclosedLiteral (offset : Nat)
deriving DecidableEq, Repr

namespace LexicalError

def message : LexicalError → String
  | strayCharacter c offset => s!"unexpected character '{c}' at position {offset}"
  | unclosedLiteral offset => s!"unterminated quoted literal starting at position {offset}"

end LexicalError

namespace Token

/-- The token that a text of a first character `c` and a rest `s` begins with, and what follows. -/
def read (offset : Nat) (c : Char) (s : List Char) : Except LexicalError (Token × List Char) :=
  if c = '(' then .ok (opening, s)
  else if c = ')' then .ok (closing, s)
  else if c = ',' then .ok (comma, s)
  else if c = Text.Quoted.mark then
    match Text.Quoted.read s with
    | some (text, rest) => .ok (quoted (String.ofList text), rest)
    | none => .error (.unclosedLiteral offset)
  else if isOperatorChar c then
    .ok (operator (String.ofList (c :: s.takeWhile isOperatorChar)), s.dropWhile isOperatorChar)
  else if isWordChar c then
    .ok (word (String.ofList (c :: s.takeWhile isWordChar)), s.dropWhile isWordChar)
  else .error (.strayCharacter c offset)

theorem length_le_of_read {offset : Nat} {c : Char} {s rest : List Char} {t : Token}
    (h : read offset c s = .ok (t, rest)) : rest.length ≤ s.length := by
  have hd (p : Char → Bool) : (s.dropWhile p).length ≤ s.length :=
    (List.dropWhile_suffix p).length_le
  unfold read at h
  split at h; · simp_all
  split at h; · simp_all
  split at h; · simp_all
  split at h
  · split at h
    · next hr =>
      have := Text.Quoted.length_lt_of_read hr
      simp_all
      omega
    · simp at h
  split at h
  · simp only [Except.ok.injEq, Prod.mk.injEq] at h
    exact h.2 ▸ hd _
  split at h
  · simp only [Except.ok.injEq, Prod.mk.injEq] at h
    exact h.2 ▸ hd _
  · simp at h

/-- The tokens of a text whose first character stands at `offset`. -/
def readAll (offset : Nat) : List Char → Except LexicalError (List Placed)
  | [] => .ok []
  | c :: s =>
    if Text.isBlank c then readAll (offset + c.utf8Size) s
    else
      match h : read offset c s with
      | .error e => .error e
      | .ok (t, rest) =>
        have := length_le_of_read h
        (readAll (offset + Text.byteLength t.chars) rest).map (⟨t, offset⟩ :: ·)
termination_by s => s.length

def tokenize (input : String) : Except LexicalError (List Placed) := readAll 0 input.toList

end Token

end ColumnFilter
