import ColumnFilter.Text.Case

/-! # Lower case

Every character has a lower case form of its own, but for the capital sigma,
which is written `ς` at the end of a word and `σ` elsewhere. The end of a word
is found by looking past case-ignorable characters on both sides.
-/

namespace ColumnFilter.Text

def LowerRun.image? (r : LowerRun) (n : Nat) : Option Nat :=
  if r.first ≤ n ∧ n ≤ r.last ∧ (n - r.first) % r.step = 0 then some (n - r.first + r.lower)
  else none

/-- The lower case form of a character that has one of a single character, else the character. -/
def lowerChar (c : Char) : Char :=
  match lowerRuns.findSome? (·.image? c.toNat) with
  | some n => Char.ofNat n
  | none => c

/-- The lower case form out of context; only the dotted capital I has one of two characters. -/
def lowerForm (c : Char) : List Char :=
  if c = '\u0130' then ['i', '\u0307'] else [lowerChar c]

/-- Whether the first character that is not case-ignorable is cased. -/
def startsCased (s : List Char) : Bool :=
  match s.dropWhile isCaseIgnorable with
  | [] => false
  | c :: _ => isCased c

/-- Lower case of a text, given the characters before it, the nearest first. -/
def lowercaseAfter (before : List Char) : List Char → List Char
  | [] => []
  | c :: rest =>
    (if c = 'Σ' then [if startsCased before && !startsCased rest then 'ς' else 'σ']
      else lowerForm c) ++ lowercaseAfter (c :: before) rest

def lowercase (s : List Char) : List Char := lowercaseAfter [] s

end ColumnFilter.Text
