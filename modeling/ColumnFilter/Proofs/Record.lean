import ColumnFilter.Record
import Mathlib.Data.List.Induction
import Mathlib.Data.List.Sort

/-! # Looking up records

What is under the names of a record tells it from all others. Putting a value
under a name and erasing a name change what is under that name alone, and of a
list with one value to a name every value is found, in whatever order they stand.
-/

namespace ColumnFilter.Record

variable {α : Type} {r s : Record α} {entries : List (String × α)} {name n : String} {v : α}

@[simp] theorem lookup?_nil : lookup? n ([] : List (String × α)) = none := rfl

theorem lookup?_cons (e : String × α) :
    lookup? n (e :: entries) = if e.1 = n then some e.2 else lookup? n entries := rfl

theorem lookup?_insert :
    lookup? n (insert name v entries) = if n = name then some v else lookup? n entries := by
  induction entries with
  | nil => simp [insert, lookup?_cons, eq_comm]
  | cons e entries ih =>
    obtain ⟨m, w⟩ := e
    rw [insert]
    split_ifs <;> grind [lookup?_cons]

theorem lookup?_filter :
    lookup? n (entries.filter fun e => e.1 ≠ name) =
      if n = name then none else lookup? n entries := by
  induction entries with
  | nil => simp
  | cons e entries ih =>
    by_cases he : e.1 = name
    · rw [List.filter_cons_of_neg (by simpa using he), ih, lookup?_cons]
      grind
    · rw [List.filter_cons_of_pos (by simpa using he), lookup?_cons, lookup?_cons, ih]
      split_ifs <;> simp_all

theorem lookup?_eq_some_iff (h : (entries.map Prod.fst).Nodup) :
    lookup? n entries = some v ↔ (n, v) ∈ entries := by
  induction entries with
  | nil => simp
  | cons e entries ih =>
    obtain ⟨m, w⟩ := e
    obtain ⟨hm, h⟩ := List.nodup_cons.1 h
    rw [lookup?_cons, List.mem_cons, Prod.mk.injEq]
    by_cases hn : m = n
    · subst hn
      have hv : (m, v) ∉ entries := fun hv => hm (List.mem_map.2 ⟨_, hv, rfl⟩)
      simp [hv, eq_comm]
    · rw [if_neg hn, ih h]
      simp [Ne.symm hn]

theorem nodup_names (r : Record α) : (r.entries.map Prod.fst).Nodup := by
  refine (List.pairwise_map.2 r.ascending).imp fun {m n} hlt he => ?_
  exact String.lt_irrefl n (he ▸ hlt)

theorem mem_entries_iff : (n, v) ∈ r.entries ↔ r.get? n = some v :=
  (lookup?_eq_some_iff r.nodup_names).symm

/-- A record is determined by what is under its names. -/
theorem ext_get? (h : ∀ n, r.get? n = s.get? n) : r = s := by
  have hm : ∀ e, e ∈ r.entries ↔ e ∈ s.entries := fun ⟨n, v⟩ => by
    rw [mem_entries_iff, mem_entries_iff, h]
  have : Std.Irrefl fun a b : String × α => a.1 < b.1 := ⟨fun a => String.lt_irrefl a.1⟩
  have he : r.entries = s.entries := r.ascending.eq_of_mem_iff s.ascending hm
  cases r
  cases s
  congr

theorem get?_put : (r.put name v).get? n = if n = name then some v else r.get? n :=
  lookup?_insert

theorem get?_erase : (r.erase name).get? n = if n = name then none else r.get? n :=
  lookup?_filter

/-- Of values under one name the last one counts. -/
theorem get?_ofList : (ofList entries).get? n = lookup? n entries.reverse := by
  induction entries using List.reverseRecOn with
  | nil => rfl
  | append_singleton entries e ih =>
    have hput : ofList (entries ++ [e]) = (ofList entries).put e.1 e.2 := by
      simp [ofList, List.foldl_append]
    rw [hput, get?_put, ih, List.reverse_concat, lookup?_cons]
    simp only [eq_comm]

/-- The value stands under the name, and no later one does. -/
def Last (entries : List (String × α)) (n : String) (v : α) : Prop :=
  ∃ before after, entries = before ++ (n, v) :: after ∧ n ∉ after.map Prod.fst

theorem last_concat_iff (e : String × α) :
    Last (entries ++ [e]) n v ↔ n = e.1 ∧ v = e.2 ∨ n ≠ e.1 ∧ Last entries n v := by
  constructor
  · rintro ⟨before, after, h, hn⟩
    rcases List.eq_nil_or_concat after with rfl | ⟨after, e', rfl⟩
    · obtain ⟨-, rfl⟩ := List.append_singleton_inj.1 h
      exact .inl ⟨rfl, rfl⟩
    · rw [List.concat_eq_append, ← List.cons_append, ← List.append_assoc] at h
      obtain ⟨rfl, rfl⟩ := List.append_singleton_inj.1 h
      simp only [List.concat_eq_append, List.map_append, List.mem_append, not_or,
        List.map_singleton, List.mem_singleton] at hn
      exact .inr ⟨hn.2, before, after, rfl, hn.1⟩
  · rintro (⟨rfl, rfl⟩ | ⟨hn, before, after, rfl, hl⟩)
    · exact ⟨entries, [], rfl, by simp⟩
    · exact ⟨before, after ++ [e], by simp, by simp [hn, hl]⟩

theorem get?_ofList_eq_some_iff_last : (ofList entries).get? n = some v ↔ Last entries n v := by
  induction entries using List.reverseRecOn with
  | nil =>
    refine iff_of_false nofun ?_
    rintro ⟨before, after, h, -⟩
    simp at h
  | append_singleton entries e ih =>
    rw [last_concat_iff, ← ih, get?_ofList, List.reverse_concat, lookup?_cons, ← get?_ofList]
    grind

theorem get?_ofList_eq_some_iff (h : (entries.map Prod.fst).Nodup) :
    (ofList entries).get? n = some v ↔ (n, v) ∈ entries := by
  rw [get?_ofList, lookup?_eq_some_iff (by rwa [List.map_reverse, List.nodup_reverse]),
    List.mem_reverse]

theorem ofList_eq_of_perm {others : List (String × α)} (h : entries.Perm others)
    (hn : (entries.map Prod.fst).Nodup) : ofList entries = ofList others := by
  refine ext_get? fun n => Option.ext fun v => ?_
  rw [get?_ofList_eq_some_iff hn, get?_ofList_eq_some_iff ((h.map Prod.fst).nodup_iff.1 hn),
    h.mem_iff]

end ColumnFilter.Record
