import ColumnFilter.Json.Number
import ColumnFilter.Json.Text

/-! # Reading JSON

Arrays and objects are read item by item, by a loop that is given the reader of
an item. A loop makes no more rounds than there are characters. Values nest up
to a fixed depth.
-/

namespace ColumnFilter.Json

def isBlank (c : Char) : Bool := c == ' ' || c == '\n' || c == '\t' || c == '\r'

def skipBlanks (s : List Char) : List Char := s.dropWhile isBlank

/-- The rest of a text that goes on with the given characters of a name such as `true`. -/
def expectIdent : List Char → List Char → Except Fault (List Char)
  | [], s => .ok s
  | _ :: _, [] => .error (.here .endInValue [])
  | c :: cs, d :: s =>
    if d = c then expectIdent cs s else .error (.past 1 .expectedIdent (d :: s))

/-- The place where the next item of an array begins, or nothing at its closing bracket. -/
def nextItem (first : Bool) (s : List Char) : Except Fault (Option (List Char)) :=
  let s := skipBlanks s
  match s with
  | [] => .error (.past 1 .endInArray s)
  | c :: rest =>
    if c = ']' then .ok none
    else if first then .ok (some s)
    else if c = ',' then
      let s := skipBlanks rest
      match s with
      | [] => .error (.past 1 .endInValue s)
      | c :: _ => if c = ']' then .error (.past 1 .trailingComma s) else .ok (some s)
    else .error (.past 1 .expectedArrayEnd s)

/-- The place behind the opening quote of the next name, or nothing at the closing brace. -/
def nextName (first : Bool) (s : List Char) : Except Fault (Option (List Char)) :=
  let s := skipBlanks s
  match s with
  | [] => .error (.past 1 .endInObject s)
  | c :: rest =>
    if c = '\x7d' then .ok none
    else if first then
      if c = '"' then .ok (some rest) else .error (.past 1 .expectedName s)
    else if c = ',' then
      let s := skipBlanks rest
      match s with
      | [] => .error (.past 1 .endInValue s)
      | c :: rest =>
        if c = '"' then .ok (some rest)
        else if c = '\x7d' then .error (.past 1 .trailingComma s)
        else .error (.past 1 .expectedName s)
    else .error (.past 1 .expectedObjectEnd s)

/-- The place behind the colon that separates a name from its value. -/
def readColon (s : List Char) : Except Fault (List Char) :=
  let s := skipBlanks s
  match s with
  | [] => .error (.past 1 .endInObject s)
  | c :: rest => if c = ':' then .ok rest else .error (.past 1 .expectedColon s)

/-- What follows the bracket or brace that has been found to be next. -/
def close (s : List Char) : List Char := (skipBlanks s).drop 1

/-- The items of an array from behind its bracket on, in at most the given number of rounds. -/
def readItems {α : Type} (item : Reader α) : Nat → Bool → Reader (List α)
  | 0, _ => fun s => .error (.past 1 .endInArray s)
  | rounds + 1, first => fun s => do
    match ← nextItem first s with
    | none => return ([], close s)
    | some s =>
      let (v, s) ← item s
      let (vs, s) ← readItems item rounds false s
      return (v :: vs, s)

/-- The members of an object from behind its brace on, in at most the given number of rounds. -/
def readMembers {α : Type} (item : Reader α) : Nat → Bool → Reader (List (String × α))
  | 0, _ => fun s => .error (.past 1 .endInObject s)
  | rounds + 1, first => fun s => do
    match ← nextName first s with
    | none => return ([], close s)
    | some s =>
      let (name, s) ← readString s
      let (v, s) ← item (← readColon s)
      let (ms, s) ← readMembers item rounds false s
      return ((name, v) :: ms, s)

def isNumberStart (c : Char) : Bool := c == '-' || c.isDigit

/-- A value in which arrays and objects nest no deeper than given. -/
def readValue : Nat → Reader Json := fun depth s =>
  let s := skipBlanks s
  match s with
  | [] => .error (.past 1 .endInValue s)
  | c :: rest =>
    if c = 'n' then (expectIdent ['u', 'l', 'l'] rest).map (null, ·)
    else if c = 't' then (expectIdent ['r', 'u', 'e'] rest).map (boolean true, ·)
    else if c = 'f' then (expectIdent ['a', 'l', 's', 'e'] rest).map (boolean false, ·)
    else if isNumberStart c then (readNumber s).map fun (n, rest) => (number n, rest)
    else if c = '"' then (readString rest).map fun (text, rest) => (string text, rest)
    else if c = '[' then
      match depth with
      | 0 => .error (.past 1 .tooDeep s)
      | depth + 1 =>
        (readItems (readValue depth) s.length true rest).map fun (vs, rest) => (array vs, rest)
    else if c = '\x7b' then
      match depth with
      | 0 => .error (.past 1 .tooDeep s)
      | depth + 1 =>
        (readMembers (readValue depth) s.length true rest).map fun (ms, rest) => (object ms, rest)
    else .error (.past 1 .expectedValue s)

/-- How deep arrays and objects may nest. -/
def maxDepth : Nat := 127

/-- Nothing but blanks may follow the value. -/
def finish {α : Type} (r : α × List Char) : Except Fault α :=
  let rest := skipBlanks r.2
  if rest = [] then .ok r.1 else .error (.past 1 .trailingCharacters rest)

def parse (text : String) : Except Fault Json := readValue maxDepth text.toList >>= finish

end ColumnFilter.Json
