import ColumnFilter.Condition.Table
import ColumnFilter.Proofs.Text.Runs

/-! # Tables read back

A text of lines is cut into them in one way only. The six lines of a table begin
with labels that do not depend on the condition, so what stands behind them tells
conditions apart as long as no text of theirs goes over more than one line.
-/

namespace ColumnFilter.Condition

variable {colors : Bool} {c c' : Condition} {l l' s s' : List Char}
  {lines lines' : List (List Char)}

/-- The text is made of the lines, with a newline behind each of them. -/
structure Lined (lines : List (List Char)) (s : List Char) : Prop where
  single : ∀ line ∈ lines, '\n' ∉ line
  eq : s = lines.flatMap (· ++ ['\n'])

theorem takeWhile_line (hl : '\n' ∉ l) (s : List Char) :
    (l ++ '\n' :: s).takeWhile (· ≠ '\n') = l := by
  refine Text.takeWhile_append_of_ends (fun c hc => ?_) (by simp)
  simpa using ne_of_mem_of_not_mem hc hl

theorem line_inj (hl : '\n' ∉ l) (hl' : '\n' ∉ l') (h : l ++ '\n' :: s = l' ++ '\n' :: s') :
    l = l' ∧ s = s' := by
  have he := congrArg (List.takeWhile (· ≠ '\n')) h
  rw [takeWhile_line hl, takeWhile_line hl'] at he
  subst he
  exact ⟨rfl, List.tail_eq_of_cons_eq (List.append_cancel_left h)⟩

theorem Lined.unique (h : Lined lines s) (h' : Lined lines' s) : lines = lines' := by
  obtain ⟨hl, rfl⟩ := h
  obtain ⟨hl', he⟩ := h'
  induction lines generalizing lines' with
  | nil =>
    cases lines' with
    | nil => rfl
    | cons l' lines' => simp at he
  | cons l lines ih =>
    cases lines' with
    | nil => simp at he
    | cons l' lines' =>
      obtain ⟨hl, hls⟩ := List.forall_mem_cons.1 hl
      obtain ⟨hl', hls'⟩ := List.forall_mem_cons.1 hl'
      simp only [List.flatMap_cons, List.append_assoc, List.singleton_append] at he
      obtain ⟨rfl, hrest⟩ := line_inj hl hl' he
      rw [ih hls hls' hrest]

/-- No text of the condition goes over more than one line. -/
structure OnLines (c : Condition) : Prop where
  family : '\n' ∉ c.family.toList
  qualifier : '\n' ∉ c.qualifier.toList
  value : '\n' ∉ c.value.toList

def label (colors : Bool) (field : Field) : List Char :=
  ((if colors then styled "2" "0" (pad field.name) else pad field.name) ++ " ").toList

def fieldLine (colors : Bool) (c : Condition) (field : Field) : List Char :=
  label colors field ++ (Field.text c field).toList

theorem newline_notMem_label (colors : Bool) (field : Field) : '\n' ∉ label colors field := by
  cases colors <;> cases field <;> decide

theorem newline_notMem_toString (b : Bool) : '\n' ∉ (toString b).toList := by
  cases b <;> decide

theorem newline_notMem_symbol (op : Comparator) : '\n' ∉ op.symbol.toList := by
  cases op <;> decide

theorem OnLines.newline_notMem_text (h : c.OnLines) (field : Field) :
    '\n' ∉ (Field.text c field).toList := by
  cases field with
  | family => exact h.family
  | qualifier => exact h.qualifier
  | comparator => exact newline_notMem_symbol c.comparator
  | value => exact h.value
  | filterIfMissing => exact newline_notMem_toString c.filterIfMissing
  | latestVersionOnly => exact newline_notMem_toString c.latestVersionOnly

theorem toList_tableLine (colors : Bool) (c : Condition) (field : Field) :
    (tableLine colors c field).toList = fieldLine colors c field ++ ['\n'] := by
  simp [tableLine, fieldLine, label]

theorem OnLines.lined (h : c.OnLines) (colors : Bool) :
    Lined (Field.all.map (fieldLine colors c)) (table colors c).toList where
  single := List.forall_mem_map.2 fun field _ hm =>
    (List.mem_append.1 hm).elim (newline_notMem_label colors field) (h.newline_notMem_text field)
  eq := by
    simp only [table, String.toList_join, List.flatMap_map, toList_tableLine]

theorem Field.mem_all (field : Field) : field ∈ Field.all := by
  cases field <;> decide

theorem toString_inj {b b' : Bool} (h : toString b = toString b') : b = b' := by
  cases b <;> cases b' <;> first | rfl | exact absurd h (by decide)

theorem symbol_inj {op op' : Comparator} (h : op.symbol = op'.symbol) : op = op' := by
  have ho := Comparator.ofSymbol?_symbol op
  rw [h, Comparator.ofSymbol?_symbol] at ho
  exact (Option.some.inj ho).symm

theorem eq_of_text (h : ∀ field, Field.text c field = Field.text c' field) : c = c' := by
  obtain ⟨family, qualifier, op, value, b, b'⟩ := c
  obtain rfl : family = _ := h .family
  obtain rfl : qualifier = _ := h .qualifier
  obtain rfl : op = _ := symbol_inj (h .comparator)
  obtain rfl : value = _ := h .value
  obtain rfl : b = _ := toString_inj (h .filterIfMissing)
  obtain rfl : b' = _ := toString_inj (h .latestVersionOnly)
  rfl

/-- The table of a condition whose texts stand on one line each has six lines, with colours and
without, and no other such condition has the same table. -/
theorem table_inj (hc : c.OnLines) (hc' : c'.OnLines) (colors : Bool) :
    (∃ lines, lines.length = 6 ∧ Lined lines (table colors c).toList) ∧
      (table colors c = table colors c' ↔ c = c') := by
  refine ⟨⟨_, rfl, hc.lined colors⟩, fun h => eq_of_text fun field => ?_, fun h => h ▸ rfl⟩
  have hl := hc'.lined colors
  rw [← h] at hl
  have hf := List.map_inj_left.1 ((hc.lined colors).unique hl) field (Field.mem_all field)
  exact String.toList_inj.1 (List.append_cancel_left hf)

def styledName : Condition := ⟨"e", "column_family\x1b[0m e", .less, "0 ", true, false⟩

theorem table_inj_styledName :
    styledName.OnLines ∧ { styledName with value := "0" }.OnLines ∧
      (∃ lines, lines.length = 6 ∧ Lined lines (table true styledName).toList) ∧
      table true styledName ≠ table true { styledName with value := "0" } := by
  have h : styledName.OnLines := ⟨by decide, by decide, by decide⟩
  have h' : { styledName with value := "0" }.OnLines := ⟨by decide, by decide, by decide⟩
  obtain ⟨hlines, hinj⟩ := table_inj h h' true
  exact ⟨h, h', hlines, hinj.not.2 (by decide)⟩

end ColumnFilter.Condition
