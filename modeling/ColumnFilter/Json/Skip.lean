import ColumnFilter.Json.Reader

/-! # Skipping values

A value that nobody asks for has to be well formed, but may nest to any depth,
hold numbers of any size and leave surrogates without their partners.
-/

namespace ColumnFilter.Json

/-- The number has to be complete, so an early end is an invalid number here. -/
def skipNumber : Reader Unit := fun s =>
  match readWritten s with
  | .ok (_, rest) => .ok ((), rest)
  | .error f => .error { f with cause := .invalidNumber }

/-- What is behind a backslash, surrogates being any numbers. -/
def skipEscape : Reader Unit
  | 'u' :: rest => (readUnit rest).map fun (_, rest) => ((), rest)
  | s => (readEscape s).map fun (_, rest) => ((), rest)

theorem length_lt_of_skipEscape {s rest : List Char} (h : skipEscape s = .ok ((), rest)) :
    rest.length < s.length := by
  unfold skipEscape at h
  split at h
  · next s =>
    match hu : readUnit s with
    | .error e => simp [hu, Except.map] at h
    | .ok (n, r) =>
      have := length_lt_of_readUnit hu
      simp only [hu, Except.map, Except.ok.injEq, Prod.mk.injEq, true_and] at h
      subst h
      simp only [List.length_cons]
      omega
  · match hu : readEscape s with
    | .error e => simp [hu, Except.map] at h
    | .ok (n, r) =>
      have := length_lt_of_readEscape hu
      simp only [hu, Except.map, Except.ok.injEq, Prod.mk.injEq, true_and] at h
      subst h
      exact this

/-- A string from behind its opening quote on. -/
def skipString (s : List Char) : Except Fault (Unit × List Char) :=
  match s with
  | [] => .error (.here .endInString [])
  | c :: rest =>
    if c = '"' then .ok ((), rest)
    else if c = '\\' then
      match h : skipEscape rest with
      | .error e => .error e
      | .ok ((), after) =>
        have := length_lt_of_skipEscape h
        skipString after
    else if c.toNat < 0x20 then .error (.past 1 .controlCharacter s)
    else skipString rest
termination_by s.length

/-- The members of an object from behind its brace on, names included. -/
def skipMembers (item : Reader Unit) : Nat → Bool → Reader Unit
  | 0, _ => fun s => .error (.past 1 .endInObject s)
  | rounds + 1, first => fun s => do
    match ← nextName first s with
    | none => return ((), close s)
    | some s =>
      let ((), s) ← skipString s
      let ((), s) ← item (← readColon s)
      skipMembers item rounds false s

/-- A value of at most the given depth. -/
def skipValue : Nat → Reader Unit := fun depth s =>
  let s := skipBlanks s
  match s with
  | [] => .error (.past 1 .endInValue s)
  | c :: rest =>
    if c = 'n' then (expectIdent ['u', 'l', 'l'] rest).map ((), ·)
    else if c = 't' then (expectIdent ['r', 'u', 'e'] rest).map ((), ·)
    else if c = 'f' then (expectIdent ['a', 'l', 's', 'e'] rest).map ((), ·)
    else if isNumberStart c then skipNumber s
    else if c = '"' then skipString rest
    else
      match depth with
      | 0 => .error (.past 1 .expectedValue s)
      | depth + 1 =>
        if c = '[' then
          (readItems (skipValue depth) s.length true rest).map fun (_, rest) => ((), rest)
        else if c = '\x7b' then skipMembers (skipValue depth) s.length true rest
        else .error (.past 1 .expectedValue s)

/-- A value of any depth; a text is never deeper than it is long. -/
def skip : Reader Unit := fun s => skipValue s.length s

end ColumnFilter.Json
