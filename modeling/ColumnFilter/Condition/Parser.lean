import ColumnFilter.Condition
import ColumnFilter.Condition.Rejection

/-! # Reading conditions

A filter expression is a call of the one known filter. The call is read from
the tokens first, each argument being a single token, and then the arguments
are interpreted by their places from the left.
-/

namespace ColumnFilter

namespace Condition

/-- The name of the only filter there is. -/
def filterName : String := "SingleColumnValueFilter"

def isArgument : Token → Bool
  | .word _ | .quoted _ | .operator _ => true
  | .opening | .closing | .comma => false

/-- The arguments of a call, one or more of them, from behind its parenthesis or a comma. -/
def readArguments : List Placed → Except SyntaxError (List Token × List Placed)
  | [] => .error .unexpectedEnd
  | [p] =>
    if isArgument p.token then .error .unexpectedEnd
    else .error (.unexpectedToken p.token p.offset)
  | p :: q :: rest =>
    if isArgument p.token then
      match q.token with
      | .comma => (readArguments rest).map fun (args, after) => (p.token :: args, after)
      | .closing => .ok ([p.token], rest)
      | other => .error (.unexpectedToken other q.offset)
    else .error (.unexpectedToken p.token p.offset)

/-- The arguments of the call that a list of tokens is, with nothing after it. -/
def readCall (tokens : List Placed) : Except SyntaxError (List Token) :=
  match tokens with
  | [] => .error .unexpectedEnd
  | ⟨.word name, _⟩ :: rest =>
    if name ≠ filterName then .error (.unknownFilter name)
    else match rest with
      | [] => .error .unexpectedEnd
      | ⟨.opening, _⟩ :: ⟨.closing, _⟩ :: rest => finish [] rest
      | ⟨.opening, _⟩ :: rest => do
        let (args, rest) ← readArguments rest
        finish args rest
      | p :: _ => .error (.unexpectedToken p.token p.offset)
  | p :: _ => .error (.unexpectedToken p.token p.offset)
where
  finish (args : List Token) : List Placed → Except SyntaxError (List Token)
    | [] => .ok args
    | p :: _ => .error (.unexpectedToken p.token p.offset)

/-- A literal at a place where a name of one character or more has to stand. -/
def readName (argument : Argument) : Option Token → Except SyntaxError String
  | none => .error (.missingArgument argument)
  | some (.quoted text) => if text = "" then .error (.emptyArgument argument) else .ok text
  | some found => .error (.unquoted argument found)

def readComparator : Option Token → Except SyntaxError Comparator
  | none => .error (.missingArgument .comparator)
  | some (.operator text) =>
    match Comparator.ofSymbol? text with
    | some op => .ok op
    | none => .error (.invalidComparator text)
  | some found => .error (.invalidComparator found.render)

/-- What follows the first colon, or all of the text where there is none. -/
def dropTag (text : String) : String :=
  match text.toList.dropWhile (· ≠ ':') with
  | [] => text
  | _ :: rest => String.ofList rest

def readValue : Option Token → Except SyntaxError String
  | none => .error (.missingArgument .value)
  | some (.quoted text) => .ok (dropTag text)
  | some found => .error (.unquoted .value found)

/-- The flag that a word spells, the case of ASCII letters aside. -/
def flag? (text : String) : Option Bool :=
  let folded := text.toList.map Char.toLower
  if folded = "true".toList then some true
  else if folded = "false".toList then some false
  else none

def readFlag (default : Bool) : Option Token → Except SyntaxError Bool
  | none => .ok default
  | some (.word text) =>
    match flag? text with
    | some b => .ok b
    | none => .error (.invalidFlag (.word text))
  | some found => .error (.invalidFlag found)

def ofArguments (args : List Token) : Except SyntaxError Condition := do
  if args.length > maxArguments then .error (.tooManyArguments args.length)
  let family ← readName .family args[0]?
  let qualifier ← readName .qualifier args[1]?
  let comparator ← readComparator args[2]?
  let value ← readValue args[3]?
  let filterIfMissing ← readFlag false args[4]?
  let latestVersionOnly ← readFlag true args[5]?
  return { family, qualifier, comparator, value, filterIfMissing, latestVersionOnly }

def read (input : String) : Except SyntaxError Condition :=
  if input.toList.all Text.isBlank then .error .blank
  else do
    let tokens ← (Token.tokenize input).mapError .lexical
    ofArguments (← readCall tokens)

def parse (input : String) : Except Rejection Condition :=
  (read input).mapError (⟨input, ·⟩)

end Condition

end ColumnFilter
