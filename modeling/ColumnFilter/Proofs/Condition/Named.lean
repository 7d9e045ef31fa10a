import ColumnFilter.Proofs.Condition.Decoding

/-! # Conditions with names

An expression names its column in full: neither the family nor the qualifier is
empty. Any condition with both names has an expression, and one without has none.
JSON texts make no such difference, so some of their conditions have no expression.
-/

namespace ColumnFilter.Condition

variable {c : Condition}

/-- Neither name of the column is empty. -/
structure Named (c : Condition) : Prop where
  family : c.family ≠ ""
  qualifier : c.qualifier ≠ ""

theorem named_of_denotes {args : List Token} (h : Denotes c args) : c.Named := by
  cases h with
  | intro hf hq _ _ => exact ⟨hf, hq⟩

theorem Named.read_render (h : c.Named) : Condition.read c.render = .ok c := by
  rw [Condition.read_render, ofArguments_writtenArguments, if_neg h.family, if_neg h.qualifier]

theorem Named.parse_render_eq (h : c.Named) : parse c.render = .ok c :=
  Outcome.mapError_eq_ok_iff.2 h.read_render

theorem exists_parse_iff : (∃ input, parse input = .ok c) ↔ c.Named := by
  constructor
  · rintro ⟨input, h⟩
    obtain ⟨args, ha, -⟩ := exists_spaced_of_read (Outcome.mapError_eq_ok_iff.1 h)
    exact named_of_denotes (ofArguments_eq_ok_iff.1 ha)
  · intro h
    exact ⟨c.render, h.parse_render_eq⟩

theorem ofJsonText_compact (c : Condition) : ofJsonText c.toJson.compact = .ok c :=
  ofJsonText_of_toList .line Json.blanks_nil (by rw [List.append_nil, toList_compact])

/-- The conditions of expressions are the named ones, each being the condition of its canonical
expression, and all conditions are read from JSON. So what is read from JSON has an expression just
if it is named, and what is read from an expression is read from JSON as well. -/
theorem parses_iff_named_and_ofJsonText (c : Condition) :
    ((∃ input, parse input = .ok c) ↔ c.Named) ∧ (parse c.render = .ok c ↔ c.Named) ∧
      ∃ text, ofJsonText text = .ok c := by
  refine ⟨exists_parse_iff, ⟨fun h => exists_parse_iff.1 ⟨_, h⟩, Named.parse_render_eq⟩, ?_⟩
  exact ⟨_, c.ofJsonText_compact⟩

def unnamed : Condition := ⟨"", "n", .equal, "1", false, true⟩

/-- An object with an empty family is read, though no expression has its condition. -/
theorem ofJsonText_unnamed :
    ofJsonText ("\x7b\"column_family\":\"\",\"column_qualifier\":\"n\",\"comparator\":\"=\"," ++
        "\"value\":\"1\",\"filter_if_missing\":false,\"latest_version_only\":true\x7d") =
      .ok unnamed ∧ (∀ input, parse input ≠ .ok unnamed) ∧
      ¬ ∀ c, (∃ text, ofJsonText text = .ok c) → ∃ input, parse input = .ok c := by
  have hn : ¬ unnamed.Named := fun h => h.family rfl
  have hc : unnamed.toJson.compact =
      "\x7b\"column_family\":\"\",\"column_qualifier\":\"n\",\"comparator\":\"=\"," ++
        "\"value\":\"1\",\"filter_if_missing\":false,\"latest_version_only\":true\x7d" := by
    decide +kernel
  have hr := unnamed.ofJsonText_compact
  refine ⟨hc ▸ hr, fun input h => hn (exists_parse_iff.1 ⟨input, h⟩), fun h => hn ?_⟩
  exact exists_parse_iff.1 (h unnamed ⟨_, hr⟩)

end ColumnFilter.Condition
