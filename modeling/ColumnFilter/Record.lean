/-! # Records

Named values in ascending order of their names, one value to a name. Two records
with the same entries are the same record, in whatever order they were built.
-/

namespace ColumnFilter

variable {α β : Type}

/-- Ascending in the byte order of the names. -/
def Ascending (entries : List (String × α)) : Prop :=
  entries.Pairwise fun a b => a.1 < b.1

structure Record (α : Type) where
  entries : List (String × α)
  ascending : Ascending entries

namespace Record

def lookup? (name : String) : List (String × α) → Option α
  | [] => none
  | (n, v) :: rest => if n = name then some v else lookup? name rest

def insert (name : String) (v : α) : List (String × α) → List (String × α)
  | [] => [(name, v)]
  | (n, w) :: rest =>
    if name < n then (name, v) :: (n, w) :: rest
    else if n = name then (name, v) :: rest
    else (n, w) :: insert name v rest

theorem mem_insert {name : String} {v : α} {e : String × α} :
    ∀ {entries : List (String × α)}, e ∈ insert name v entries → e = (name, v) ∨ e ∈ entries
  | [], h => by simpa [insert] using h
  | (n, w) :: rest, h => by
    unfold insert at h
    split at h
    · simpa using h
    split at h
    · rcases List.mem_cons.1 h with rfl | h
      · exact .inl rfl
      · exact .inr (List.mem_cons_of_mem _ h)
    · rcases List.mem_cons.1 h with rfl | h
      · exact .inr List.mem_cons_self
      · exact (mem_insert h).imp_right (List.mem_cons_of_mem _)

theorem lt_of_not_lt_of_ne {a b : String} (h : ¬ a < b) (h' : b ≠ a) : b < a := by
  rcases Classical.em (b < a) with hb | hb
  · exact hb
  · exact absurd (String.le_antisymm (String.not_lt.1 h) (String.not_lt.1 hb)) h'

theorem ascending_insert {name : String} {v : α} :
    ∀ {entries : List (String × α)}, Ascending entries → Ascending (insert name v entries)
  | [], _ => by simp [insert, Ascending]
  | (n, w) :: rest, h => by
    obtain ⟨h, hr⟩ := List.pairwise_cons.1 h
    unfold insert
    split
    · next hn =>
      refine List.pairwise_cons.2 ⟨fun e he => ?_, List.pairwise_cons.2 ⟨h, hr⟩⟩
      rcases List.mem_cons.1 he with rfl | he
      · exact hn
      · exact String.lt_trans hn (h e he)
    split
    · next hn => exact List.pairwise_cons.2 ⟨fun e he => hn ▸ h e he, hr⟩
    · next hn hne =>
      refine List.pairwise_cons.2 ⟨fun e he => ?_, ascending_insert hr⟩
      rcases mem_insert he with rfl | he
      · exact lt_of_not_lt_of_ne hn hne
      · exact h e he

def empty : Record α := ⟨[], List.Pairwise.nil⟩

def get? (r : Record α) (name : String) : Option α := lookup? name r.entries

def has (r : Record α) (name : String) : Bool := (r.get? name).isSome

def put (r : Record α) (name : String) (v : α) : Record α :=
  ⟨insert name v r.entries, ascending_insert r.ascending⟩

def erase (r : Record α) (name : String) : Record α :=
  ⟨r.entries.filter fun e => e.1 ≠ name, r.ascending.filter _⟩

/-- The record of named values of which the last one of a name counts. -/
def ofList (entries : List (String × α)) : Record α :=
  entries.foldl (fun r (name, v) => r.put name v) empty

end Record

end ColumnFilter
