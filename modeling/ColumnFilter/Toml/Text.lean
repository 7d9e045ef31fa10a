import ColumnFilter.Text.Digits
import ColumnFilter.Text.Expected
import ColumnFilter.Toml

/-! # Strings and keys of TOML

Strings are quoted singly, as they stand, or doubly, with escapes; three quotes
open a string that may run over lines, where a line end is always a line feed.
A key is a run of parts between points, quoted or bare.
-/

namespace ColumnFilter.Toml

/-- Reads a value from the beginning of a text and leaves the rest. -/
abbrev Reader (α : Type) := List Char → Option (α × List Char)

def isSpace (c : Char) : Bool := c == ' ' || c == '\t'

def skipSpaces (s : List Char) : List Char := s.dropWhile isSpace

def isControl (c : Char) : Bool := (decide (c.toNat < 0x20) && c != '\t') || c == '\x7f'

/-- What follows a line end. -/
def readNewline : List Char → Option (List Char)
  | '\n' :: rest => some rest
  | '\x0d' :: '\n' :: rest => some rest
  | _ => none

/-- The number that exactly so many hexadecimal digits denote. -/
def readHex : Nat → Nat → Reader Nat
  | 0, n, s => some (n, s)
  | _ + 1, _, [] => none
  | count + 1, n, c :: rest => do readHex count (16 * n + (← Text.hexValue? c)) rest

/-- A character by its code point, which must not be a surrogate. -/
def readCodePoint (digits : Nat) : Reader Char := fun s => do
  let (n, rest) ← readHex digits 0 s
  if n.isValidChar then some (Char.ofNat n, rest) else none

/-- What stands behind a backslash. -/
def readEscape : Reader Char
  | 'b' :: rest => some ('\x08', rest)
  | 't' :: rest => some ('\t', rest)
  | 'n' :: rest => some ('\n', rest)
  | 'f' :: rest => some ('\x0c', rest)
  | 'r' :: rest => some ('\x0d', rest)
  | '"' :: rest => some ('"', rest)
  | '\\' :: rest => some ('\\', rest)
  | 'u' :: rest => readCodePoint 4 rest
  | 'U' :: rest => readCodePoint 8 rest
  | _ => none

/-- What follows the line end and the blank space behind a backslash, if a line ends there. -/
def readContinuation (s : List Char) : Option (List Char) :=
  (readNewline (skipSpaces s)).map skipLines
where
  skipLines : List Char → List Char
    | ' ' :: rest | '\t' :: rest | '\n' :: rest => skipLines rest
    | '\x0d' :: '\n' :: rest => skipLines rest
    | s => s

def tripled (q : Char) : List Char → Option (List Char)
  | a :: b :: c :: rest => if a = q ∧ b = q ∧ c = q then some rest else none
  | _ => none

/-- Up to two quotes more, which belong to the string that three quotes have just ended. -/
def extraQuotes (q : Char) : Reader (List Char)
  | a :: b :: rest => if a = q then if b = q then some ([q, q], rest) else some ([q], b :: rest)
      else some ([], a :: b :: rest)
  | [a] => if a = q then some ([q], []) else some ([], [a])
  | [] => some ([], [])

/-- The characters of a string from behind its opening quotes on. The first number bounds the
rounds; `multiline` is set between three quotes, `escapes` between double ones. -/
def readBody (q : Char) (multiline escapes : Bool) : Nat → Reader (List Char)
  | 0, _ => none
  | _ + 1, [] => none
  | rounds + 1, c :: rest =>
    let next (d : Char) (s : List Char) :=
      (readBody q multiline escapes rounds s).map fun (text, rest) => (d :: text, rest)
    if c = q then
      if multiline then
        match tripled q (c :: rest) with
        | some rest => extraQuotes q rest
        | none => next c rest
      else some ([], rest)
    else if escapes ∧ c = '\\' then
      match if multiline then readContinuation rest else none with
      | some rest => readBody q multiline escapes rounds rest
      | none => do
        let (d, rest) ← readEscape rest
        next d rest
    else
      match if multiline then readNewline (c :: rest) else none with
      | some rest => next '\n' rest
      | none => if isControl c then none else next c rest

/-- A string between one quote and another. -/
def readLine (q : Char) (escapes : Bool) : Reader String := fun s =>
  (readBody q false escapes (s.length + 1) s).map fun (text, rest) => (String.ofList text, rest)

/-- A string between three quotes, of which a line end right behind the opening ones is no part. -/
def readLines (q : Char) (escapes : Bool) : Reader String := fun s =>
  let s := (readNewline s).getD s
  (readBody q true escapes (s.length + 1) s).map fun (text, rest) => (String.ofList text, rest)

def readString : Reader String
  | [] => none
  | c :: rest =>
    if c = '"' ∨ c = '\x27' then
      match tripled c (c :: rest) with
      | some rest => readLines c (c == '"') rest
      | none => readLine c (c == '"') rest
    else none

def isBare (c : Char) : Bool := c.isAlphanum || c == '_' || c == '-'

def readPart : Reader String
  | [] => none
  | c :: rest =>
    if c = '"' ∨ c = '\x27' then readLine c (c == '"') rest
    else if isBare c then
      some (String.ofList (c :: rest.takeWhile isBare), rest.dropWhile isBare)
    else none

/-- The parts of a key with the spaces around them, in at most the given number of rounds. -/
def readParts : Nat → Reader (List String)
  | 0, _ => none
  | rounds + 1, s => do
    let (part, s) ← readPart (skipSpaces s)
    match skipSpaces s with
    | '.' :: rest =>
      let (parts, s) ← readParts rounds rest
      return (part :: parts, s)
    | s => return ([part], s)

/-- The greatest number of parts of a key, and of brackets around a value. -/
def maxDepth : Nat := 79

def readKey : Reader (List String) := readParts maxDepth

end ColumnFilter.Toml
