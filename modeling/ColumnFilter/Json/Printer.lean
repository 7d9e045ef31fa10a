import ColumnFilter.Json.Text
import ColumnFilter.Json

/-! # Writing JSON

A value is written on one line without blanks, or with every item and member on
a line of its own, indented by two blanks a level.
-/

namespace ColumnFilter.Json

mutual

def compact : Json → String
  | null => "null"
  | boolean b => toString b
  | number n => n.text
  | string s => quote s
  | array items => "[" ++ ",".intercalate (compactItems items) ++ "]"
  | object members => "\x7b" ++ ",".intercalate (compactMembers members) ++ "\x7d"

def compactItems : List Json → List String
  | [] => []
  | v :: rest => compact v :: compactItems rest

def compactMembers : List (String × Json) → List String
  | [] => []
  | (name, v) :: rest => (quote name ++ ":" ++ compact v) :: compactMembers rest

end

/-- The beginning of a line at the given level. -/
def indent (level : Nat) : String := "\n" ++ String.ofList (List.replicate (2 * level) ' ')

/-- Items between brackets, on lines of their own; no items leave the brackets empty. -/
def block (level : Nat) (opening closing : String) (items : List String) : String :=
  if items = [] then opening ++ closing
  else opening ++ ",".intercalate (items.map (indent (level + 1) ++ ·)) ++ indent level ++ closing

mutual

/-- The value as it stands at the given level. -/
def prettyAt (level : Nat) : Json → String
  | null => "null"
  | boolean b => toString b
  | number n => n.text
  | string s => quote s
  | array items => block level "[" "]" (prettyItems (level + 1) items)
  | object members => block level "\x7b" "\x7d" (prettyMembers (level + 1) members)

def prettyItems (level : Nat) : List Json → List String
  | [] => []
  | v :: rest => prettyAt level v :: prettyItems level rest

def prettyMembers (level : Nat) : List (String × Json) → List String
  | [] => []
  | (name, v) :: rest => (quote name ++ ": " ++ prettyAt level v) :: prettyMembers level rest

end

def pretty (v : Json) : String := prettyAt 0 v

end ColumnFilter.Json
