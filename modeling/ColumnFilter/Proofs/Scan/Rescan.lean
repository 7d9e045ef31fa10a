import ColumnFilter.Proofs.Row.Line
import ColumnFilter.Proofs.Scan.Agreement
import ColumnFilter.Proofs.Scan.Rows

/-! # Scanning what a scan has kept

The rows that a scan keeps have been read from lines and pass the condition.
Written on lines of their own they are read back as they are, and pass again.
-/

namespace ColumnFilter.Scan

variable {c : Condition} {k text : String} {row : KeyedRow} {rows : List KeyedRow}
  {texts : List String}

def Kept (c : Condition) (k : String) (row : KeyedRow) : Prop :=
  c.passes row.cells = true ∧ ∃ text, KeyedRow.parse k text = .ok row

theorem kept_of_readLines {number : ℕ} {ls : List (List UInt8)}
    (h : readLines c k number ls = .ok rows) : ∀ row ∈ rows, Kept c k row := by
  obtain ⟨all, hall, rfl⟩ := readLines_eq_ok_iff.1 h
  intro row hrow
  obtain ⟨hmem, hp⟩ := List.mem_filter.1 hrow
  exact ⟨hp, hall.exists_parse row hmem⟩

def ofTexts (texts : List String) : List UInt8 :=
  texts.flatMap fun text => Text.encoding text ++ [10]

theorem terminated_of_writtenAs (h : row.WrittenAs k text) :
    Terminated (Text.encoding text) (Text.encoding text ++ [10]) := by
  refine .feed (fun hf => ?_) fun hr => ?_
  · exact absurd (h.le_of_mem hf) (by decide)
  · exact absurd (h.le_of_mem (List.mem_of_getLast? hr)) (by decide)

theorem run_of_writtenAs (hr : row.Stable k) (h : row.WrittenAs k text) (hp : c.passes row.cells) :
    run c k (Text.encoding text ++ [10]) = .ok [row] := by
  rw [run_of_parse (.terminated (terminated_of_writtenAs h)) (hr.parse_of_writtenAs h), if_pos hp]

theorem run_ofTexts (hrows : ∀ row ∈ rows, Kept c k row)
    (h : List.Forall₂ (KeyedRow.WrittenAs k) rows texts) : run c k (ofTexts texts) = .ok rows := by
  induction h with
  | nil => rfl
  | cons hw _ ih =>
    obtain ⟨⟨hp, _, hrow⟩, hrows⟩ := List.forall_mem_cons.1 hrows
    exact run_append_of_ok (terminated_of_writtenAs hw).closed
      (run_of_writtenAs (KeyedRow.stable_of_parse hrow) hw hp) (ih hrows)

/-- What a scan has kept is kept when it is written on lines and scanned again. -/
theorem run_rewritten {bytes : List UInt8} (h : run c k bytes = .ok rows)
    (hw : List.Forall₂ (KeyedRow.WrittenAs k) rows texts) :
    run c k (ofTexts texts) = .ok rows :=
  run_ofTexts (kept_of_readLines h) hw

section Street

def streetMembers : List (String × Json) := [("key", .string "ΟΔΟΣ"), ("a:on", .boolean true)]

def streetRow : KeyedRow := ⟨⟨"οδος"⟩, .ofList [("a:on", "true")]⟩

def streetCondition : Condition := ⟨"a", "on", .equal, "true", true, true⟩

theorem parse_street :
    KeyedRow.parse "key" (Json.object streetMembers).compact = .ok streetRow := by
  have hjson : Json.parse (Json.object streetMembers).compact = .ok (.object streetMembers) :=
    Json.parse_compact_of_readsAs (List.forall_mem_cons.2 ⟨Json.readsAs_string 126 _,
      List.forall_mem_singleton.2 (Json.readsAs_boolean 126 true)⟩)
  have hid : (Record.ofList streetMembers).get? "key" >>= Json.scalar? = some "ΟΔΟΣ" := by
    decide +kernel
  have hkey : RowKey.ofIdentifier "ΟΔΟΣ" = ⟨"οδος"⟩ := by decide +kernel
  have hobject : Row.readObject (Json.object streetMembers).compact =
      .ok (Record.ofList streetMembers) := by rw [Row.readObject, hjson]
  have hget (n : String) : ((Record.ofList streetMembers).erase "key").get? n =
      if n = "a:on" then some (.boolean true) else none := by
    rw [Record.get?_erase, Record.get?_ofList]
    simp only [streetMembers, List.reverse_cons, List.reverse_nil, List.nil_append,
      List.cons_append, Record.lookup?_cons, Record.lookup?_nil]
    grind
  refine Outcome.bind_eq_ok_iff.2 ⟨_, hobject, ?_⟩
  rw [hid]
  refine Outcome.bind_eq_ok_iff.2 ⟨.ofList [("a:on", "true")], ?_, ?_⟩
  · rw [Row.ofRecord_eq_ok_iff]
    refine ⟨fun n v hv => ?_, fun n => ?_⟩
    · rw [hget] at hv
      split_ifs at hv
      obtain rfl := Option.some.inj hv
      exact .of_scalar? rfl
    · rw [hget, Record.get?_ofList, List.reverse_singleton, Record.lookup?_cons,
        Record.lookup?_nil]
      by_cases hn : n = "a:on"
      · rw [if_pos hn, if_pos hn.symm]
        rfl
      · rw [if_neg hn, if_neg (Ne.symm hn)]
        rfl
  · rw [hkey]
    rfl

theorem run_rewritten_street :
    run streetCondition "key" (ofTexts ["\x7b\"key\":\"ΟΔΟΣ\",\"a:on\":true\x7d"]) =
        .ok [streetRow] ∧
      List.Forall₂ (KeyedRow.WrittenAs "key") [streetRow]
        ["\x7b\"a:on\":\"true\",\"key\":\"οδος\"\x7d"] ∧
      run streetCondition "key" (ofTexts ["\x7b\"a:on\":\"true\",\"key\":\"οδος\"\x7d"]) =
        .ok [streetRow] := by
  have hread : (Json.object streetMembers).compact =
      "\x7b\"key\":\"ΟΔΟΣ\",\"a:on\":true\x7d" := by decide +kernel
  have hwritten : (Json.object [("a:on", .string "true"), ("key", .string "οδος")]).compact =
      "\x7b\"a:on\":\"true\",\"key\":\"οδος\"\x7d" := by decide +kernel
  have hs : Terminated (Text.encoding "\x7b\"key\":\"ΟΔΟΣ\",\"a:on\":true\x7d")
      (ofTexts ["\x7b\"key\":\"ΟΔΟΣ\",\"a:on\":true\x7d"]) :=
    .feed (by decide +kernel) (by decide +kernel)
  have h : run streetCondition "key" (ofTexts ["\x7b\"key\":\"ΟΔΟΣ\",\"a:on\":true\x7d"]) =
      .ok [streetRow] := by
    rw [run_of_parse (.terminated hs) (hread ▸ parse_street), if_pos (by decide +kernel)]
  have hw : List.Forall₂ (KeyedRow.WrittenAs "key") [streetRow]
      ["\x7b\"a:on\":\"true\",\"key\":\"οδος\"\x7d"] :=
    .cons ⟨_, .swap _ _ [], hwritten.symm⟩ .nil
  exact ⟨h, hw, run_rewritten h hw⟩

end Street

end ColumnFilter.Scan
