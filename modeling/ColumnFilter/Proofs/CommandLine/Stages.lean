import ColumnFilter.CommandLine.Run
import ColumnFilter.Proofs.Condition.RoundTrip
import ColumnFilter.Proofs.Row.Line
import ColumnFilter.Proofs.Scan.Faults

/-! # Stages of a run

A run goes through stages, each of which may have a fault of its own: the
configuration, the filter, and then the row of a check, or the input of a scan
and the lines of that. The first stage with a fault decides what is reported,
whatever is wrong with later ones.
-/

namespace ColumnFilter.CommandLine

open Scan (FirstBadLine)

inductive Stage
  | config
  | filter
  | row
  | input
  | lines
deriving DecidableEq, Repr

/-- How many stages come before; a row stands where the input stands. -/
def Stage.rank : Stage → ℕ
  | config => 0
  | filter => 1
  | row | input => 2
  | lines => 3

def Command.filter? : Command → Option String
  | parse filter | check filter _ | scan filter _ _ => some filter
  | key _ | config _ => none

variable {w : World} {ctx : Context} {i : Invocation} {path filter text : String}
  {input keyColumn : Option String} {config : Config} {bytes : List UInt8} {f : Failure}

/-- The configuration is found under the path and read. -/
structure Loaded (w : World) (path : String) (config : Config) : Prop where
  found : w.environment.configPath? = some path
  read : Config.load (w.file path) = .ok config

/-- The bytes that a scan is given, by the file or else by the standard input. -/
inductive Supplied (w : World) : Option String → List UInt8 → Prop
  | standard : Supplied w none w.input
  | file {path : String} {bytes : List UInt8} :
      (w.file path).content = .ok bytes → Supplied w (some path) bytes

/-- What is wrong at a stage, and the failure that it makes. -/
inductive Fault (w : World) (i : Invocation) : Stage → Failure → Prop
  | noPath : w.environment.configPath? = none → Fault w i .config (.config .noPath)
  | config {path : String} {e : ConfigError} : w.environment.configPath? = some path →
      Config.load (w.file path) = .error e → Fault w i .config (.config e)
  | filter {text : String} {r : Rejection} : i.command.filter? = some text →
      Condition.parse text = .error r → Fault w i .filter (.filter r)
  | row {filter text : String} {e : RowError} : i.command = .check filter text →
      Row.parse text = .error e → Fault w i .row (.ofRow e)
  | input {filter path : String} {keyColumn : Option String} {e : FileError} :
      i.command = .scan filter (some path) keyColumn → (w.file path).content = .error e →
      Fault w i .input (.file e)
  | lines {filter path : String} {input keyColumn : Option String} {config : Config}
      {bytes : List UInt8} {e : ScanError} : i.command = .scan filter input keyColumn →
      Loaded w path config → Supplied w input bytes →
      FirstBadLine (keyColumn.getD config.keyColumnName) 1 (Scan.lines bytes) e →
      Fault w i .lines (.ofScan e)

structure First (w : World) (i : Invocation) (stage : Stage) (f : Failure) : Prop where
  fault : Fault w i stage f
  clear : ∀ earlier, earlier.rank < stage.rank → ∀ f, ¬ Fault w i earlier f

/-- Where there is a fault there is a first one. -/
theorem exists_first {stage : Stage} {f : Failure} (h : Fault w i stage f) :
    ∃ stage f, First w i stage f := by
  by_cases hc : ∃ earlier, earlier.rank < stage.rank ∧ ∃ f, Fault w i earlier f
  · obtain ⟨earlier, hlt, f', h'⟩ := hc
    exact exists_first h'
  · exact ⟨stage, f, h, fun earlier hlt f' h' => hc ⟨earlier, hlt, f', h'⟩⟩
termination_by stage.rank

section Clear

theorem Loaded.clear (hl : Loaded w path config) (f : Failure) : ¬ Fault w i .config f := by
  intro h
  cases h with
  | noPath hp => cases hl.found.symm.trans hp
  | config hp he =>
    obtain rfl := Option.some.inj (hl.found.symm.trans hp)
    cases hl.read.symm.trans he

theorem exists_loaded (h : ∀ f, ¬ Fault w i .config f) : ∃ path config, Loaded w path config := by
  cases hp : w.environment.configPath? with
  | none => exact absurd (.noPath hp) (h _)
  | some path =>
    cases he : Config.load (w.file path) with
    | error e => exact absurd (.config hp he) (h _)
    | ok config => exact ⟨path, config, hp, he⟩

theorem clear_filter {c : Condition} (hi : i.command.filter? = some text)
    (hc : Condition.parse text = .ok c) (f : Failure) : ¬ Fault w i .filter f := by
  intro h
  cases h with
  | filter hi' he =>
    obtain rfl := Option.some.inj (hi.symm.trans hi')
    cases hc.symm.trans he

theorem exists_condition (h : ∀ f, ¬ Fault w i .filter f) (hi : i.command.filter? = some text) :
    ∃ c, Condition.parse text = .ok c := by
  cases hc : Condition.parse text with
  | error r => exact absurd (.filter hi hc) (h _)
  | ok c => exact ⟨c, rfl⟩

theorem clear_row (hi : i.command = .scan filter input keyColumn) (f : Failure) :
    ¬ Fault w i .row f := by
  intro h
  cases h with
  | row hi' he => cases hi.symm.trans hi'

theorem Supplied.clear (hb : Supplied w input bytes) (hi : i.command = .scan filter input keyColumn)
    (f : Failure) : ¬ Fault w i .input f := by
  intro h
  cases h with
  | input hi' he =>
    obtain ⟨-, rfl, -⟩ := Command.scan.inj (hi.symm.trans hi')
    cases hb with
    | file hb => cases hb.symm.trans he

end Clear

section Commands

theorem parseFilter_eq_error_iff :
    parseFilter text = .error f ↔ ∃ r, Condition.parse text = .error r ∧ .filter r = f :=
  Outcome.mapError_eq_error_iff

theorem runParse_eq_error_iff :
    runParse ctx filter = .error f ↔ ∃ r, Condition.parse filter = .error r ∧ .filter r = f := by
  rw [runParse, Outcome.bind_eq_error_iff, parseFilter_eq_error_iff]
  exact or_iff_left nofun

theorem runCheck_eq_error_iff : runCheck ctx filter text = .error f ↔
    (∃ r, Condition.parse filter = .error r ∧ .filter r = f) ∨
      (∃ c, Condition.parse filter = .ok c) ∧ ∃ e, Row.parse text = .error e ∧ .ofRow e = f := by
  rw [runCheck, Outcome.bind_eq_error_iff, parseFilter_eq_error_iff]
  simp only [Outcome.bind_eq_error_iff, Outcome.mapError_eq_error_iff, parseFilter,
    Outcome.mapError_eq_ok_iff]
  refine or_congr_right ⟨?_, ?_⟩
  · rintro ⟨c, hc, h | ⟨cells, -, h⟩⟩
    · exact ⟨⟨c, hc⟩, h⟩
    · cases h
  · rintro ⟨⟨c, hc⟩, h⟩
    exact ⟨c, hc, .inl h⟩

theorem scanInput_eq_ok_iff : scanInput w input = .ok bytes ↔ Supplied w input bytes := by
  constructor
  · intro h
    cases input with
    | none =>
      obtain rfl := Except.ok.inj h
      exact .standard
    | some path => exact .file (Outcome.mapError_eq_ok_iff.1 h)
  · intro h
    cases h with
    | standard => rfl
    | file h => exact Outcome.mapError_eq_ok_iff.2 h

theorem scanInput_eq_error_iff : scanInput w input = .error f ↔
    ∃ path e, input = some path ∧ (w.file path).content = .error e ∧ .file e = f := by
  constructor
  · intro h
    cases input with
    | none => cases h
    | some path =>
      obtain ⟨e, he, hf⟩ := Outcome.mapError_eq_error_iff.1 h
      exact ⟨path, e, rfl, he, hf⟩
  · rintro ⟨path, e, rfl, he, hf⟩
    exact Outcome.mapError_eq_error_iff.2 ⟨e, he, hf⟩

theorem runScan_eq_error_iff : runScan w ctx filter input keyColumn = .error f ↔
    (∃ r, Condition.parse filter = .error r ∧ .filter r = f) ∨
      (∃ c, Condition.parse filter = .ok c) ∧
        ((∃ path e, input = some path ∧ (w.file path).content = .error e ∧ .file e = f) ∨
          ∃ bytes, Supplied w input bytes ∧ ∃ e,
            FirstBadLine (keyColumn.getD ctx.keyColumn) 1 (Scan.lines bytes) e ∧
              .ofScan e = f) := by
  rw [runScan, Outcome.bind_eq_error_iff, parseFilter_eq_error_iff]
  simp only [Outcome.bind_eq_error_iff, Outcome.mapError_eq_error_iff, parseFilter,
    Outcome.mapError_eq_ok_iff, scanInput_eq_ok_iff, scanInput_eq_error_iff,
    Scan.run_eq_error_iff_firstBadLine]
  refine or_congr_right ⟨?_, ?_⟩
  · rintro ⟨c, hc, h | ⟨bytes, hb, h | ⟨rows, -, h⟩⟩⟩
    · exact ⟨⟨c, hc⟩, .inl h⟩
    · exact ⟨⟨c, hc⟩, .inr ⟨bytes, hb, h⟩⟩
    · cases h
  · rintro ⟨⟨c, hc⟩, h | ⟨bytes, hb, h⟩⟩
    · exact ⟨c, hc, .inl h⟩
    · exact ⟨c, hc, .inr ⟨bytes, hb, .inl h⟩⟩

end Commands

theorem perform_eq_error_of_config (h : Fault w i .config f) : perform w i = .error f := by
  cases h with
  | noPath hp =>
    rw [perform, hp]
    rfl
  | config hp he =>
    rw [perform, hp]
    exact Outcome.bind_eq_error_iff.2 (.inr ⟨_, rfl, Outcome.bind_eq_error_iff.2
      (.inl (Outcome.mapError_eq_error_iff.2 ⟨_, he, rfl⟩))⟩)

section Loaded

variable (hl : Loaded w path config)
include hl

theorem Loaded.perform_eq : perform w i =
    let ctx := Context.of i w.environment config
    match i.command with
    | .parse filter => runParse ctx filter
    | .check filter row => runCheck ctx filter row
    | .scan filter input keyColumn => runScan w ctx filter input keyColumn
    | .key id => .ok (runKey ctx id)
    | .config none | .config (some .settings) =>
      .ok (runSettings ctx config path (w.file path))
    | .config (some .path) => .ok (runPath ctx path (w.file path)) := by
  have hload : (Config.load (w.file path)).mapError Failure.config = .ok config :=
    Outcome.mapError_eq_ok_iff.2 hl.read
  rw [perform, hl.found]
  simp only [bind, Except.bind, hload]
  rfl

theorem first_filter {r : Rejection} (hi : i.command.filter? = some filter)
    (hr : Condition.parse filter = .error r) : First w i .filter (.filter r) := by
  refine ⟨.filter hi hr, fun earlier hlt => ?_⟩
  cases earlier with
  | config => exact hl.clear
  | filter | row | input | lines => exact absurd hlt (by decide)

theorem clear_before_row {c : Condition} (hi : i.command.filter? = some filter)
    (hc : Condition.parse filter = .ok c) (earlier : Stage) (hlt : earlier.rank < 2) (f : Failure) :
    ¬ Fault w i earlier f := by
  cases earlier with
  | config => exact hl.clear f
  | filter => exact clear_filter hi hc f
  | row | input | lines => exact absurd hlt (by decide)

theorem first_row {c : Condition} {e : RowError} (hi : i.command = .check filter text)
    (hc : Condition.parse filter = .ok c) (he : Row.parse text = .error e) :
    First w i .row (.ofRow e) :=
  ⟨.row hi he, clear_before_row hl (by rw [hi]; rfl) hc⟩

variable {c : Condition} (hi : i.command = .scan filter input keyColumn)
  (hc : Condition.parse filter = .ok c)
include hi hc

theorem first_input {path : String} {e : FileError} (hp : input = some path)
    (he : (w.file path).content = .error e) : First w i .input (.file e) :=
  ⟨.input (hp ▸ hi) he, clear_before_row hl (by rw [hi]; rfl) hc⟩

theorem first_lines {e : ScanError} (hb : Supplied w input bytes)
    (he : FirstBadLine (keyColumn.getD config.keyColumnName) 1 (Scan.lines bytes) e) :
    First w i .lines (.ofScan e) := by
  refine ⟨.lines hi hl hb he, fun earlier hlt => ?_⟩
  cases earlier with
  | config | filter => exact clear_before_row hl (by rw [hi]; rfl) hc _ (by decide)
  | row => exact clear_row hi
  | input => exact hb.clear hi
  | lines => exact absurd hlt (by decide)

end Loaded

theorem exists_first_of_perform (h : perform w i = .error f) : ∃ stage, First w i stage f := by
  by_cases hc : ∃ f, Fault w i .config f
  · obtain ⟨f', hf'⟩ := hc
    obtain rfl := Except.error.inj (h.symm.trans (perform_eq_error_of_config hf'))
    exact ⟨.config, hf', nofun⟩
  obtain ⟨path, config, hl⟩ := exists_loaded (not_exists.1 hc)
  rw [hl.perform_eq] at h
  cases hi : i.command with
  | parse filter =>
    rw [hi] at h
    obtain ⟨r, hr, rfl⟩ := runParse_eq_error_iff.1 h
    exact ⟨.filter, first_filter hl (by rw [hi]; rfl) hr⟩
  | check filter text =>
    rw [hi] at h
    rcases runCheck_eq_error_iff.1 h with ⟨r, hr, rfl⟩ | ⟨⟨c, hc⟩, e, he, rfl⟩
    · exact ⟨.filter, first_filter hl (by rw [hi]; rfl) hr⟩
    · exact ⟨.row, first_row hl hi hc he⟩
  | scan filter input keyColumn =>
    rw [hi] at h
    rcases runScan_eq_error_iff.1 h with ⟨r, hr, rfl⟩ | ⟨⟨c, hc⟩, h⟩
    · exact ⟨.filter, first_filter hl (by rw [hi]; rfl) hr⟩
    rcases h with ⟨path, e, hp, he, rfl⟩ | ⟨bytes, hb, e, he, rfl⟩
    · exact ⟨.input, first_input hl hi hc hp he⟩
    · exact ⟨.lines, first_lines hl hi hc hb he⟩
  | key id =>
    rw [hi] at h
    cases h
  | config command =>
    rw [hi] at h
    rcases command with _ | _ | _ <;> cases h

theorem First.perform_eq {stage : Stage} (h : First w i stage f) : perform w i = .error f := by
  obtain ⟨hf, hclear⟩ := h
  cases hf with
  | noPath hp => exact perform_eq_error_of_config (.noPath hp)
  | config hp he => exact perform_eq_error_of_config (.config hp he)
  | @filter text r hi he =>
    obtain ⟨path, config, hl⟩ := exists_loaded (hclear .config (by decide))
    rw [hl.perform_eq]
    cases hcommand : i.command with
    | parse filter =>
      rw [hcommand] at hi
      obtain rfl := Option.some.inj hi
      exact runParse_eq_error_iff.2 ⟨r, he, rfl⟩
    | check filter row =>
      rw [hcommand] at hi
      obtain rfl := Option.some.inj hi
      exact runCheck_eq_error_iff.2 (.inl ⟨r, he, rfl⟩)
    | scan filter input keyColumn =>
      rw [hcommand] at hi
      obtain rfl := Option.some.inj hi
      exact runScan_eq_error_iff.2 (.inl ⟨r, he, rfl⟩)
    | key id | config command =>
      rw [hcommand] at hi
      cases hi
  | @row filter text e hi he =>
    obtain ⟨path, config, hl⟩ := exists_loaded (hclear .config (by decide))
    have hc := exists_condition (hclear .filter (by decide)) (by rw [hi]; rfl)
    rw [hl.perform_eq, hi]
    exact runCheck_eq_error_iff.2 (.inr ⟨hc, e, he, rfl⟩)
  | @input filter path keyColumn e hi he =>
    obtain ⟨_, config, hl⟩ := exists_loaded (hclear .config (by decide))
    have hc := exists_condition (hclear .filter (by decide)) (by rw [hi]; rfl)
    rw [hl.perform_eq, hi]
    exact runScan_eq_error_iff.2 (.inr ⟨hc, .inl ⟨path, e, rfl, he, rfl⟩⟩)
  | @lines filter path input keyColumn config bytes e hi hl hb he =>
    have hc := exists_condition (hclear .filter (by decide)) (by rw [hi]; rfl)
    rw [hl.perform_eq, hi]
    exact runScan_eq_error_iff.2 (.inr ⟨hc, .inr ⟨bytes, hb, e, he, rfl⟩⟩)

/-- A run fails with what is wrong at the first stage that has a fault. -/
theorem perform_eq_error_iff : perform w i = .error f ↔ ∃ stage, First w i stage f :=
  ⟨exists_first_of_perform, fun ⟨_, h⟩ => h.perform_eq⟩

theorem Failure.exitCode_eq_one_iff :
    f.exitCode = 1 ↔ f.code = "CONFIG_ERROR" ∨ f.code = "FILTER_ERROR" := by
  cases f <;> simp [exitCode, code]

theorem Failure.exitCode_eq_two_iff :
    f.exitCode = 2 ↔ f.code = "INVALID_ROW" ∨ f.code = "IO_ERROR" ∨ f.code = "JSON_ERROR" := by
  cases f <;> simp [exitCode, code]

theorem Failure.exitCode_eq_one_or (f : Failure) : f.exitCode = 1 ∨ f.exitCode = 2 := by
  cases f <;> simp [exitCode]

theorem run_of_parse {args : List String} (h : parse args = .ok i) : run w args = i.run w := by
  rw [run, h]

/-- A run that is not refused exits with 0 and no report where no stage has a fault. Else it prints
nothing and reports what is wrong at the first stage that has one, and the kind of that alone
decides between 1 and 2. -/
theorem run_reports_first {args : List String} {i : Invocation} (h : parse args = .ok i)
    (w : World) :
    ((run w args).exit = 0 ∨ (run w args).exit = 1 ∨ (run w args).exit = 2) ∧
    (∀ stage f, First w i stage f →
      run w args = ⟨f.exitCode, "", f.report (i.has .json)⟩) ∧
    ((run w args).exit ≠ 0 → (run w args).output = "" ∧ ∃ stage f, First w i stage f) ∧
    ((run w args).exit = 0 → (run w args).report = "" ∧ ∀ stage f, ¬ Fault w i stage f) ∧
    ((run w args).exit = 1 ↔ ∃ stage f, First w i stage f ∧
      (f.code = "CONFIG_ERROR" ∨ f.code = "FILTER_ERROR")) ∧
    ((run w args).exit = 2 ↔ ∃ stage f, First w i stage f ∧
      (f.code = "INVALID_ROW" ∨ f.code = "IO_ERROR" ∨ f.code = "JSON_ERROR")) := by
  rw [run_of_parse h, Invocation.run]
  simp only [← Failure.exitCode_eq_one_iff, ← Failure.exitCode_eq_two_iff]
  cases hp : perform w i with
  | ok output =>
    have hfirst (stage : Stage) (f : Failure) : ¬ First w i stage f := fun hf => by
      cases hp.symm.trans hf.perform_eq
    have hfault (stage : Stage) (f : Failure) : ¬ Fault w i stage f := fun hf => by
      obtain ⟨stage, f, hf⟩ := exists_first hf
      exact hfirst stage f hf
    simp [hfirst, hfault]
  | error f =>
    obtain ⟨stage, hf⟩ := perform_eq_error_iff.1 hp
    have hfirst {stage : Stage} {f' : Failure} (hf' : First w i stage f') : f' = f :=
      Except.error.inj (hf'.perform_eq.symm.trans hp)
    have hexit := f.exitCode_eq_one_or
    refine ⟨.inr hexit, fun stage f' hf' => ?_, fun _ => ⟨rfl, stage, f, hf⟩, fun h0 => ?_, ?_, ?_⟩
    · rw [hfirst hf']
    · have h0 : f.exitCode = 0 := h0
      omega
    · exact ⟨fun h1 => ⟨stage, f, hf, h1⟩, fun ⟨_, _, hf', h1⟩ => hfirst hf' ▸ h1⟩
    · exact ⟨fun h2 => ⟨stage, f, hf, h2⟩, fun ⟨_, _, hf', h2⟩ => hfirst hf' ▸ h2⟩

section Keyless

def keylessInput : List UInt8 := Text.encoding "\x7b\"key\":\"a\"\x7d\n\x7b\x7d\n"

def keylessWorld : World where
  environment := ⟨some "rf.toml", none, none, false⟩
  file _ := .absent .missing
  input := keylessInput

def keylessFilter : String := "SingleColumnValueFilter('a', 'n', =, 'binary:5', false, true)"

theorem firstBadLine_keyless :
    FirstBadLine "key" 1 (Scan.lines keylessInput) (.row 2 (.missingKey "key")) := by
  have hlines : Scan.lines keylessInput =
      [Text.encoding "\x7b\"key\":\"a\"\x7d", Text.encoding "\x7b\x7d"] := by decide +kernel
  have hstable : KeyedRow.Stable "key" ⟨⟨"a"⟩, .empty⟩ := ⟨by decide +kernel, rfl⟩
  have hwritten : (Json.object [("key", .string "a")]).compact = "\x7b\"key\":\"a\"\x7d" := by
    decide +kernel
  have hempty : (Json.object []).compact = "\x7b\x7d" := by decide +kernel
  have hobject : Json.parse "\x7b\x7d" = .ok (.object []) :=
    hempty ▸ Json.parse_compact_object nofun
  have hkey : KeyedRow.parse "key" "\x7b\x7d" = .error (.missingKey "key") := by
    rw [KeyedRow.parse, Row.readObject, hobject]
    rfl
  have hrow := hstable.parse_of_writtenAs ⟨_, .refl _, hwritten.symm⟩
  rw [hlines]
  exact .later (fun e => Scan.not_badLine_of_parse hrow)
    (.here (.notRow rfl (Json.not_blanks_of_parse hobject) hkey))

theorem run_reports_first_keyless :
    parse ["scan", keylessFilter] = .ok ⟨.scan keylessFilter none none, []⟩ ∧
      run keylessWorld ["scan", keylessFilter] =
        ⟨2, "", "Error: invalid row at line 2: missing row key field 'key'\n"⟩ := by
  have hargs : parse ["scan", keylessFilter] = .ok ⟨.scan keylessFilter none none, []⟩ := by
    decide +kernel
  have hc : Condition.parse keylessFilter = .ok ⟨"a", "n", .equal, "5", false, true⟩ := by
    have hrender : keylessFilter = Condition.render ⟨"a", "n", .equal, "5", false, true⟩ := by
      decide +kernel
    rw [hrender, Condition.parse, Condition.read_render, Condition.ofArguments_writtenArguments]
    rfl
  have hl : Loaded keylessWorld "rf.toml" {} := ⟨rfl, rfl⟩
  have hi : (⟨.scan keylessFilter none none, []⟩ : Invocation).command =
      .scan keylessFilter none none := rfl
  have hfirst := first_lines hl hi hc .standard firstBadLine_keyless
  refine ⟨hargs, ?_⟩
  rw [(run_reports_first hargs keylessWorld).2.1 .lines _ hfirst]
  decide +kernel

end Keyless

end ColumnFilter.CommandLine
