import ColumnFilter.Json.Fault
import ColumnFilter.Text.Digits

/-! # Strings of JSON

Writing escapes quotes, backslashes and control characters, and nothing else.
Reading takes every escape, characters beyond the sixteenth bit being written
as a pair of surrogates.
-/

namespace ColumnFilter.Json

/-- The letter that stands behind a backslash for a character. -/
def escapeLetter? (c : Char) : Option Char :=
  if c = '"' then some '"'
  else if c = '\\' then some '\\'
  else if c = '\x08' then some 'b'
  else if c = '\x0c' then some 'f'
  else if c = '\n' then some 'n'
  else if c = '\r' then some 'r'
  else if c = '\t' then some 't'
  else none

def hexDigit (n : Nat) : Char :=
  if n < 10 then Char.ofNat (n + '0'.toNat) else Char.ofNat (n - 10 + 'a'.toNat)

def escapeChar (c : Char) : List Char :=
  match escapeLetter? c with
  | some letter => ['\\', letter]
  | none =>
    if c.toNat < 0x20 then
      ['\\', 'u', '0', '0', hexDigit (c.toNat / 16), hexDigit (c.toNat % 16)]
    else [c]

def quoteChars (s : List Char) : List Char := '"' :: s.flatMap escapeChar ++ ['"']

def quote (s : String) : String := String.ofList (quoteChars s.toList)

/-- The character that a letter behind a backslash stands for. -/
def unescapeLetter? (c : Char) : Option Char :=
  if c = '"' then some '"'
  else if c = '\\' then some '\\'
  else if c = '/' then some '/'
  else if c = 'b' then some '\x08'
  else if c = 'f' then some '\x0c'
  else if c = 'n' then some '\n'
  else if c = 'r' then some '\r'
  else if c = 't' then some '\t'
  else none

/-- The number that four hexadecimal digits denote. -/
def hexUnit? : List Char → Option (Nat × List Char)
  | a :: b :: c :: d :: rest => do
    let a ← Text.hexValue? a
    let b ← Text.hexValue? b
    let c ← Text.hexValue? c
    let d ← Text.hexValue? d
    return (((a * 16 + b) * 16 + c) * 16 + d, rest)
  | _ => none

/-- The number behind `\u`. It takes four bytes, whatever they hold. -/
def readUnit : Reader Nat := fun s =>
  match hexUnit? s with
  | some (n, rest) => .ok (n, rest)
  | none =>
    if Text.byteLength s < 4 then .error (.here .endInString [])
    else .error (.past 4 .invalidEscape s)

def isLeading (n : Nat) : Bool := decide (0xD800 ≤ n) && decide (n ≤ 0xDBFF)

def isTrailing (n : Nat) : Bool := decide (0xDC00 ≤ n) && decide (n ≤ 0xDFFF)

/-- Takes one byte that has to be the given character, in the middle of a pair of surrogates. -/
def expectInPair (c : Char) (s : List Char) : Except Fault (List Char) :=
  match s with
  | [] => .error (.here .endInString [])
  | d :: rest => if d = c then .ok rest else .error (.past 1 .unfinishedSurrogate s)

/-- The character behind `\u`, of one number or of a pair of surrogates. -/
def readUnicode : Reader Char := fun s => do
  let (n, rest) ← readUnit s
  if isTrailing n then .error (.here .loneSurrogate rest)
  else if isLeading n then do
    let rest ← expectInPair '\\' rest
    let rest ← expectInPair 'u' rest
    let (m, rest) ← readUnit rest
    if isTrailing m then
      return (Char.ofNat (0x10000 + (n - 0xD800) * 0x400 + (m - 0xDC00)), rest)
    else .error (.here .loneSurrogate rest)
  else return (Char.ofNat n, rest)

/-- The character behind a backslash. -/
def readEscape : Reader Char
  | [] => .error (.here .endInString [])
  | 'u' :: rest => readUnicode rest
  | c :: rest =>
    match unescapeLetter? c with
    | some d => .ok (d, rest)
    | none => .error (.past 1 .invalidEscape (c :: rest))

theorem length_lt_of_readUnit {s rest : List Char} {n : Nat} (h : readUnit s = .ok (n, rest)) :
    rest.length < s.length := by
  unfold readUnit at h
  split at h
  · next m r hu =>
    obtain ⟨-, rfl⟩ := Prod.mk.inj (Except.ok.inj h)
    unfold hexUnit? at hu
    split at hu
    · simp only [Option.bind_eq_bind, Option.bind_eq_some_iff, Option.pure_def,
        Option.some.injEq, Prod.mk.injEq] at hu
      obtain ⟨_, -, _, -, _, -, _, -, -, rfl⟩ := hu
      simp only [List.length_cons]
      omega
    · simp at hu
  · split at h <;> simp at h

theorem length_lt_of_expectInPair {c : Char} {s rest : List Char}
    (h : expectInPair c s = .ok rest) : rest.length < s.length := by
  unfold expectInPair at h
  split at h
  · simp at h
  · split at h
    · simp_all
    · simp at h

theorem length_lt_of_readUnicode {s rest : List Char} {c : Char}
    (h : readUnicode s = .ok (c, rest)) : rest.length < s.length := by
  unfold readUnicode at h
  simp only [bind, Except.bind, pure, Except.pure] at h
  split at h
  · simp at h
  next p hu =>
  have h₁ := length_lt_of_readUnit hu
  split at h
  · simp at h
  split at h
  · split at h
    · simp at h
    next r₂ he =>
    have h₂ := length_lt_of_expectInPair he
    split at h
    · simp at h
    next r₃ he' =>
    have h₃ := length_lt_of_expectInPair he'
    split at h
    · simp at h
    next q hq =>
    have h₄ := length_lt_of_readUnit hq
    split at h
    · simp only [Except.ok.injEq, Prod.mk.injEq] at h
      obtain ⟨-, rfl⟩ := h
      omega
    · simp at h
  · simp only [Except.ok.injEq, Prod.mk.injEq] at h
    obtain ⟨-, rfl⟩ := h
    exact h₁

theorem length_lt_of_readEscape {s rest : List Char} {c : Char}
    (h : readEscape s = .ok (c, rest)) : rest.length < s.length := by
  unfold readEscape at h
  split at h
  · simp at h
  · have := length_lt_of_readUnicode h
    simp only [List.length_cons]
    omega
  · split at h
    · simp_all
    · simp at h

/-- The characters of a string from behind its opening quote to behind its closing one. -/
def readChars (s : List Char) : Except Fault (List Char × List Char) :=
  match s with
  | [] => .error (.here .endInString [])
  | c :: rest =>
    if c = '"' then .ok ([], rest)
    else if c = '\\' then
      match h : readEscape rest with
      | .error e => .error e
      | .ok (d, after) =>
        have := length_lt_of_readEscape h
        (readChars after).map fun (text, after) => (d :: text, after)
    else if c.toNat < 0x20 then .error (.past 1 .controlCharacter s)
    else (readChars rest).map fun (text, after) => (c :: text, after)
termination_by s.length

/-- A string from behind its opening quote on. -/
def readString : Reader String := fun s =>
  (readChars s).map fun (text, rest) => (String.ofList text, rest)

end ColumnFilter.Json
