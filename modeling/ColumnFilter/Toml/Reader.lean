import ColumnFilter.Toml.Scalar

/-! # Reading TOML

A document is read line by line: comments, headers, and keys with their values.
Its tables are built as they are read, so that a key that is set twice or a
table that is opened twice ends the reading.
-/

namespace ColumnFilter.Toml

/-- What follows a comment, if one is next. It ends at the first control other than a tab. -/
def skipComment (s : List Char) : List Char :=
  match s with
  | '#' :: rest => rest.dropWhile fun c => !isControl c
  | s => s

/-- Spaces, line ends, and comments that end with a line, in at most the given number of rounds. -/
def skipLines : Nat → List Char → List Char
  | 0, s => s
  | rounds + 1, s =>
    let s := skipSpaces s
    match readNewline (skipComment s) with
    | some rest => skipLines rounds rest
    | none => s

/-- The items of an array from behind its bracket on, in at most the given number of rounds. -/
def readItems (item : Reader Toml) : Nat → Reader (List Toml)
  | 0, _ => none
  | rounds + 1, s => do
    match skipLines s.length s with
    | ']' :: rest => return ([], rest)
    | s =>
      let (v, s) ← item s
      match skipLines s.length s with
      | ',' :: rest =>
        let (vs, s) ← readItems item rounds rest
        return (v :: vs, s)
      | ']' :: rest => return ([v], rest)
      | _ => none

/-- A key, an equals sign and a value. -/
def readPair (item : Reader Toml) : Reader (List String × Toml) := fun s => do
  let (key, s) ← readKey s
  let (v, s) ← item (skipSpaces (← Text.expect '=' s))
  return ((key, v), s)

/-- Adds the pairs of a table in braces to the members read so far. -/
def readPairs (item : Reader Toml) : Nat → Members → Reader Members
  | 0, _, _ => none
  | rounds + 1, ms, s => do
    let ((key, v), s) ← readPair item s
    let ms ← assign v key true ms
    match skipSpaces s with
    | ',' :: rest => readPairs item rounds ms rest
    | '\x7d' :: rest => return (ms, rest)
    | _ => none

/-- A value in which brackets and braces nest no deeper than given. -/
def readValue : Nat → Reader Toml := fun depth s =>
  match s with
  | [] => none
  | c :: rest =>
    if c = '"' ∨ c = '\x27' then (readString s).map fun (text, rest) => (string text, rest)
    else if c = 't' then (Text.expectAll ['r', 'u', 'e'] rest).map (boolean true, ·)
    else if c = 'f' then (Text.expectAll ['a', 'l', 's', 'e'] rest).map (boolean false, ·)
    else if c.isDigit ∨ c = '+' ∨ c = '-' ∨ c = 'i' ∨ c = 'n' then readNumeric s
    else
      match depth with
      | 0 => none
      | depth + 1 =>
        if c = '[' then
          (readItems (readValue depth) s.length rest).map fun (vs, rest) => (array vs, rest)
        else if c = '\x7b' then
          match skipSpaces rest with
          | '\x7d' :: rest => some (inlineTable [], rest)
          | rest =>
            (readPairs (readValue depth) s.length [] rest).map fun (ms, rest) =>
              (inlineTable ms, rest)
        else none

/-- What follows the end of a line, which a comment may precede; the document may end there. -/
def endLine (s : List Char) : Option (List Char) :=
  match skipComment (skipSpaces s) with
  | [] => some []
  | s => readNewline s

/-- A header and whether it stands in double brackets, from behind its first bracket on. -/
def readHeader : Reader (List String × Bool)
  | '[' :: rest => do
    let (key, s) ← readKey rest
    return ((key, true), ← Text.expectAll [']', ']'] s)
  | s => do
    let (key, s) ← readKey s
    return ((key, false), ← Text.expect ']' s)

/-- Adds the lines of a document, in at most the given number of rounds, to the members read so
far. The header under which the lines stand is given. -/
def readLinesInto : Nat → List String → Members → List Char → Option Members
  | 0, _, _, _ => none
  | rounds + 1, header, ms, s =>
    match skipSpaces s with
    | [] => some ms
    | '#' :: rest => do readLinesInto rounds header ms (← endLine ('#' :: rest))
    | '[' :: rest => do
      let ((key, inArray), s) ← readHeader rest
      readLinesInto rounds key (← openTable inArray key ms) (← endLine s)
    | s =>
      match readNewline s with
      | some rest => readLinesInto rounds header ms rest
      | none => do
        let ((key, v), s) ← readPair (readValue maxDepth) s
        readLinesInto rounds header (← update (assign v key true) header ms) (← endLine s)

/-- The members of a document, which a byte order mark may precede. -/
def parse (text : String) : Option Members :=
  let s := match text.toList with
    | '\ufeff' :: rest => rest
    | s => s
  readLinesInto (s.length + 1) [] [] s

end ColumnFilter.Toml
