/-! # Quoted literals

A literal stands between single quotes, and a quote inside it is written
twice. Reading stops at the first quote that is not doubled.
-/

namespace ColumnFilter.Text.Quoted

def mark : Char := '\x27'

def encode : List Char → List Char
  | [] => []
  | c :: rest => if c = mark then mark :: mark :: encode rest else c :: encode rest

def write (s : List Char) : List Char := mark :: (encode s ++ [mark])

/-- The text of a literal whose opening quote has been read, with what follows its closing quote. -/
def read : List Char → Option (List Char × List Char)
  | [] => none
  | '\x27' :: '\x27' :: rest => (read rest).map fun (text, after) => (mark :: text, after)
  | c :: rest =>
    if c = mark then some ([], rest) else (read rest).map fun (text, after) => (c :: text, after)

theorem length_lt_of_read {s text rest : List Char} (h : read s = some (text, rest)) :
    rest.length < s.length := by
  fun_induction read s generalizing text with
  | case1 => simp at h
  | case2 s ih =>
    obtain ⟨⟨t, r⟩, hr, he⟩ := Option.map_eq_some_iff.1 h
    obtain ⟨rfl, rfl⟩ := Prod.mk.inj he
    have := ih hr
    simp only [List.length_cons]
    omega
  | case3 => simp_all
  | case4 c s _ _ ih =>
    obtain ⟨⟨t, r⟩, hr, he⟩ := Option.map_eq_some_iff.1 h
    obtain ⟨rfl, rfl⟩ := Prod.mk.inj he
    have := ih hr
    simp only [List.length_cons]
    omega

end ColumnFilter.Text.Quoted
