import ColumnFilter.CommandLine.Run
import ColumnFilter.Proofs.CommandLine.Options
import Mathlib.Data.List.Perm.Basic

/-! # The place of a flag

A flag that is moved to another place among the arguments is one flag less where it was and one
more where it comes to stand. Either changes no more of an invocation than the order of its flags.
A flag may be put in wherever it is not given at the same level already.
-/

namespace ColumnFilter.CommandLine

open Seen (Open AwaitsValue Waiting)

variable {level : Level} {s t r : Seen} {f : Flag} {arg : String} {args u v : List String}
  {i : Invocation}

/-- The arguments that are a flag and nothing else. -/
def Flag.spellings : Flag → List String
  | .verbose => ["-v", "--verbose"]
  | .quiet => ["-q", "--quiet"]
  | .json => ["--json"]
  | .noColor => ["--no-color"]

/-- The flags that exclude each other are both given. -/
def Exclude (flags : List Flag) : Prop := .quiet ∈ flags ∧ .verbose ∈ flags

theorem Exclude.mono {flags flags' : List Flag} (h : Exclude flags) (hs : flags ⊆ flags') :
    Exclude flags' :=
  ⟨hs h.1, hs h.2⟩

section Levels

variable {next : Level}

def opened (level : Level) (s : Seen) (arg : String) : Option Level :=
  if s.trailing then none else level.subcommand? arg

theorem readLevel_nil_iff : readLevel level s [] = .ok i ↔
    ∃ t, s.settle = .ok t ∧ t.command level = .ok i.command ∧ t.check level = .ok () ∧
      t.flags = i.flags := by
  simp only [readLevel, Outcome.bind_eq_ok_iff]
  constructor
  · rintro ⟨t, ht, command, hc, _, hcheck, hi⟩
    obtain rfl := Except.ok.inj hi
    exact ⟨t, ht, hc, hcheck, rfl⟩
  · rintro ⟨t, ht, hc, hcheck, hf⟩
    exact ⟨t, ht, i.command, hc, (), hcheck, by rw [hf]; rfl⟩

theorem readLevel_subcommand_iff (hn : opened level s arg = some next) :
    readLevel level s (arg :: args) = .ok i ↔ next ≠ .help ∧ s.check level = .ok () ∧
      ∃ below, readLevel next {} args = .ok below ∧
        { below with flags := s.flags ++ below.flags } = i := by
  rw [readLevel, ← opened, hn]
  split
  · next hh =>
    cases hh
    exact iff_of_false nofun fun h => h.1 rfl
  · next hh he =>
    cases he
    simp only [Outcome.bind_eq_ok_iff]
    constructor
    · rintro ⟨below, hb, _, hc, hi⟩
      exact ⟨hh, hc, below, hb, Except.ok.inj hi⟩
    · rintro ⟨-, hc, below, hb, hi⟩
      exact ⟨below, hb, (), hc, congrArg _ hi⟩
  · next he => cases he

theorem readLevel_argument_iff (hn : opened level s arg = none) :
    readLevel level s (arg :: args) = .ok i ↔
      ∃ t, s.takeArgument level arg = .ok t ∧ readLevel level t args = .ok i := by
  rw [readLevel, ← opened, hn]
  exact Outcome.bind_eq_ok_iff

/-- The flags of a level when its arguments have been read, up to the one that opens the next. -/
def levelFlags (level : Level) (s : Seen) : List String → List Flag
  | [] => s.flags
  | arg :: args =>
    match opened level s arg, s.takeArgument level arg with
    | none, .ok t => levelFlags level t args
    | _, _ => s.flags

/-- The flags of the level that is open between the first arguments and the others, be they among
those or among these. -/
def flagsAt (level : Level) (s : Seen) : List String → List String → List Flag
  | [], v => levelFlags level s v
  | arg :: u, v =>
    match opened level s arg, s.takeArgument level arg with
    | some next, _ => flagsAt next {} u v
    | none, .ok t => flagsAt level t u v
    | none, .error _ => s.flags

theorem levelFlags_of_opened (hn : opened level s arg = some next) :
    levelFlags level s (arg :: args) = s.flags := by
  simp only [levelFlags, hn]

theorem levelFlags_of_takeArgument (hn : opened level s arg = none)
    (ht : s.takeArgument level arg = .ok t) :
    levelFlags level s (arg :: args) = levelFlags level t args := by
  simp only [levelFlags, hn, ht]

theorem flagsAt_of_opened (hn : opened level s arg = some next) :
    flagsAt level s (arg :: u) v = flagsAt next {} u v := by
  simp only [flagsAt, hn]

theorem flagsAt_of_takeArgument (hn : opened level s arg = none)
    (ht : s.takeArgument level arg = .ok t) :
    flagsAt level s (arg :: u) v = flagsAt level t u v := by
  simp only [flagsAt, hn, ht]

theorem check_eq_ok_iff : s.check level = .ok () ↔ ¬ Exclude s.flags ∧
    ¬ (level.takesOperand ∧ s.operand = none) ∧ ¬ (level = .check ∧ s.value? .row = none) := by
  unfold Seen.check
  split
  · next h => exact iff_of_false nofun fun h' => h'.1 h
  · next h =>
    split
    · next h' => exact iff_of_false nofun fun h => h.2.1 h'
    · next h' =>
      split
      · next h'' => exact iff_of_false nofun fun h => h.2.2 h''
      · next h'' => exact iff_of_true rfl ⟨h, h', h''⟩

theorem command_flags {c : Command} (h : s.command level = .ok c) (l : List Flag) :
    ({ s with flags := l } : Seen).command level = .ok c := by
  cases level <;> first | exact h | cases h

/-- A level and the levels below it are read likewise with other flags before those of its own, if
none of them is given twice and no two exclude each other. -/
structure Reads (level : Level) (s : Seen) (args : List String) (i : Invocation)
    (own below : List Flag) : Prop where
  flags : i.flags = s.flags ++ own ++ below
  notMem : ∀ g ∈ own, g ∉ s.flags
  clear : ¬ Exclude (s.flags ++ own)
  held : ∀ l, (∀ g ∈ own, g ∉ l) → levelFlags level { s with flags := l } args = l ++ own
  other : ∀ l, (∀ g ∈ own, g ∉ l) → ¬ Exclude (l ++ own) →
    readLevel level { s with flags := l } args = .ok ⟨i.command, l ++ own ++ below⟩

/-- The flags that the rest of the level adds are told apart from those of the levels below. -/
theorem exists_reads (h : readLevel level s args = .ok i) :
    ∃ own below, Reads level s args i own below := by
  induction args generalizing level s i with
  | nil =>
    obtain ⟨t, ht, hcommand, hcheck, hf⟩ := readLevel_nil_iff.1 h
    obtain ⟨hclear, hlacks⟩ := check_eq_ok_iff.1 hcheck
    obtain ⟨values, rfl⟩ := Seen.exists_of_settle ht
    refine ⟨[], [], ?_, List.forall_mem_nil _, ?_, fun l _ => (List.append_nil l).symm,
      fun l _ hl => ?_⟩
    · simpa using hf.symm
    · rwa [List.append_nil]
    · rw [List.append_nil] at hl ⊢
      exact readLevel_nil_iff.2 ⟨_, Seen.settle_congr ht rfl rfl, command_flags hcommand l,
        check_eq_ok_iff.2 ⟨hl, hlacks⟩, (List.append_nil l).symm⟩
  | cons arg args ih =>
    cases hn : opened level s arg with
    | some next =>
      obtain ⟨hh, hcheck, below, hb, rfl⟩ := (readLevel_subcommand_iff hn).1 h
      obtain ⟨hclear, hlacks⟩ := check_eq_ok_iff.1 hcheck
      have hn' (l : List Flag) : opened level { s with flags := l } arg = some next := hn
      refine ⟨[], below.flags, ?_, List.forall_mem_nil _, ?_, fun l _ => ?_, fun l _ hl => ?_⟩
      · rw [List.append_nil]
      · rwa [List.append_nil]
      · rw [levelFlags_of_opened (hn' l), List.append_nil]
      · rw [List.append_nil] at hl ⊢
        exact (readLevel_subcommand_iff (hn' l)).2
          ⟨hh, check_eq_ok_iff.2 ⟨hl, hlacks⟩, below, hb, rfl⟩
    | none =>
      obtain ⟨t, ht, hi⟩ := (readLevel_argument_iff hn).1 h
      obtain ⟨new, hnew⟩ := Seen.exists_adds_takeArgument ht
      obtain ⟨own, below, hr⟩ := ih hi
      obtain ⟨hold, hown⟩ : (∀ g ∈ own, g ∉ s.flags) ∧ ∀ g ∈ own, g ∉ new := by
        have hr := hr.notMem
        simp only [hnew.flags, List.mem_append, not_or] at hr
        exact ⟨fun g hg => (hr g hg).1, fun g hg => (hr g hg).2⟩
      have hn' (l : List Flag) : opened level { s with flags := l } arg = none := hn
      have hrest (l : List Flag) (hl : ∀ g ∈ own, g ∉ l) : ∀ g ∈ own, g ∉ l ++ new :=
        fun g hg hm => (List.mem_append.1 hm).elim (hl g hg) (hown g hg)
      refine ⟨new ++ own, below, ?_, List.forall_mem_append.2 ⟨hnew.notMem, hold⟩, ?_,
        fun l hl => ?_, fun l hl hx => ?_⟩
      · rw [hr.flags, hnew.flags, List.append_assoc s.flags]
      · rw [← List.append_assoc, ← hnew.flags]
        exact hr.clear
      · obtain ⟨hl, hl'⟩ := List.forall_mem_append.1 hl
        rw [levelFlags_of_takeArgument (hn' l) (hnew.other l hl), hr.held _ (hrest l hl'),
          List.append_assoc]
      · obtain ⟨hl, hl'⟩ := List.forall_mem_append.1 hl
        rw [← List.append_assoc] at hx ⊢
        exact (readLevel_argument_iff (hn' l)).2
          ⟨_, hnew.other l hl, hr.other _ (hrest l hl') hx⟩

theorem hasSubcommands_of_subcommand? (h : level.subcommand? arg = some next) :
    level.hasSubcommands = true := by
  cases level <;> first | rfl | cases h

theorem hasSubcommands_of_opened (h : opened level s arg = some next) :
    level.hasSubcommands = true := by
  unfold opened at h
  split at h
  · cases h
  · exact hasSubcommands_of_subcommand? h

theorem check_of_hasSubcommands (hl : level.hasSubcommands = true)
    {values : List (ValueOption × String)} {pending : Option (ValueOption × Option String)} :
    ({ s with values := values, pending := pending } : Seen).check level = s.check level := by
  cases level <;> first | rfl | cases hl

/-- An argument does the same once what is pending has been entered, but for two dashes, behind
which it is pending still. -/
theorem takeArgument_eq_or (level : Level) (arg : String) (hr : s.settle = .ok r) :
    s.takeArgument level arg = r.takeArgument level arg ∨
      ∃ s' r', s.takeArgument level arg = .ok s' ∧ r.takeArgument level arg = .ok r' ∧
        s'.settle = .ok r' := by
  by_cases ha : s.trailing = false ∧ arg = "--"
  · obtain ⟨ht, rfl⟩ := ha
    obtain ⟨values, rfl⟩ := Seen.exists_of_settle hr
    exact .inr ⟨_, _, Seen.takeArgument_dashes ht, Seen.takeArgument_dashes ht,
      Seen.settle_congr (r := { s with trailing := true }) hr rfl rfl⟩
  · exact .inl (Seen.takeArgument_settle (fun ht hd => ha ⟨ht, hd⟩) hr)

/-- What is pending may be entered at once. -/
theorem readLevel_settle_iff (hr : s.settle = .ok r) :
    readLevel level s args = .ok i ↔ readLevel level r args = .ok i := by
  induction args generalizing s r with
  | nil => rw [readLevel_nil_iff, readLevel_nil_iff, hr, Seen.settle_settled hr]
  | cons arg args ih =>
    obtain ⟨values, rfl⟩ := Seen.exists_of_settle hr
    have ho : opened level { s with pending := none, values := values } arg =
      opened level s arg := rfl
    cases hn : opened level s arg with
    | some next =>
      have hcheck : ({ s with pending := none, values := values } : Seen).check level =
        s.check level := check_of_hasSubcommands (hasSubcommands_of_opened hn)
      rw [readLevel_subcommand_iff hn, readLevel_subcommand_iff (ho.trans hn), hcheck]
    | none =>
      rw [readLevel_argument_iff hn, readLevel_argument_iff (ho.trans hn)]
      rcases takeArgument_eq_or level arg hr with ht | ⟨s', r', hs', hr', h⟩
      · rw [ht]
      · simp only [hs', hr', Except.ok.injEq, exists_eq_left']
        exact ih h

theorem levelFlags_settle (hr : s.settle = .ok r) :
    levelFlags level s args = levelFlags level r args := by
  induction args generalizing s r with
  | nil =>
    obtain ⟨values, rfl⟩ := Seen.exists_of_settle hr
    rfl
  | cons arg args ih =>
    obtain ⟨values, rfl⟩ := Seen.exists_of_settle hr
    have ho : opened level { s with pending := none, values := values } arg =
      opened level s arg := rfl
    cases hn : opened level s arg with
    | some next => rw [levelFlags_of_opened hn, levelFlags_of_opened (ho.trans hn)]
    | none =>
      rcases takeArgument_eq_or level arg hr with ht | ⟨s', r', hs', hr', h⟩
      · simp only [levelFlags, ho, ht]
      · rw [levelFlags_of_takeArgument hn hs', levelFlags_of_takeArgument (ho.trans hn) hr', ih h]

theorem Reads.levelFlags_eq {own below : List Flag} (h : Reads level s args i own below) :
    levelFlags level s args = s.flags ++ own :=
  h.held s.flags h.notMem

theorem flagsAt_subset (h : readLevel level s (u ++ v) = .ok i) :
    flagsAt level s u v ⊆ i.flags := by
  induction u generalizing level s i with
  | nil =>
    rw [List.nil_append] at h
    obtain ⟨own, below, hreads⟩ := exists_reads h
    rw [flagsAt, hreads.levelFlags_eq, hreads.flags]
    exact List.subset_append_left _ _
  | cons a u ih =>
    rw [List.cons_append] at h
    cases hn : opened level s a with
    | some next =>
      obtain ⟨-, -, below, hb, rfl⟩ := (readLevel_subcommand_iff hn).1 h
      rw [flagsAt_of_opened hn]
      exact List.subset_append_of_subset_right _ (ih hb)
    | none =>
      obtain ⟨t, ht, hi⟩ := (readLevel_argument_iff hn).1 h
      rw [flagsAt_of_takeArgument hn ht]
      exact ih hi

theorem settle_of_readLevel (hp : level.hasSubcommands = true → s.pending = none)
    (hw : ¬ s.Waiting) (h : readLevel level s args = .ok i) : ∃ r, s.settle = .ok r := by
  induction args generalizing s with
  | nil =>
    obtain ⟨t, ht, -⟩ := readLevel_nil_iff.1 h
    exact ⟨t, ht⟩
  | cons arg args ih =>
    cases hn : opened level s arg with
    | some next => exact ⟨s, Seen.settle_of_pending (hp (hasSubcommands_of_opened hn))⟩
    | none =>
      obtain ⟨t, ht, hi⟩ := (readLevel_argument_iff hn).1 h
      by_cases ha : s.trailing = false ∧ arg = "--"
      · obtain ⟨hs, rfl⟩ := ha
        rw [Seen.takeArgument_dashes hs] at ht
        obtain rfl := Except.ok.inj ht
        obtain ⟨r, hr⟩ := ih (s := { s with trailing := true }) hp hw hi
        obtain ⟨values, rfl⟩ := Seen.exists_of_settle hr
        exact ⟨_, Seen.settle_congr hr rfl rfl⟩
      · exact Seen.settle_of_takeArgument hw (fun hs hd => ha ⟨hs, hd⟩) ht

end Levels

section Places

theorem subcommand?_of_dash {rest : List Char} (h : arg.toList = '-' :: rest) :
    level.subcommand? arg = none := by
  unfold Level.subcommand?
  split <;> first | rfl | cases h

/-- A flag is spelled by a letter behind a dash or by a name behind two, at every level. -/
theorem spelled_of_mem (ha : arg ∈ f.spellings) (level : Level) :
    (∃ c, arg.toList = ['-', c] ∧ c ≠ '-' ∧ shortOption? level c = some (.flag f)) ∨
      ∃ c rest, arg.toList = '-' :: '-' :: c :: rest ∧ '=' ∉ c :: rest ∧
        longOption? level (String.ofList (c :: rest)) = some (.flag f) := by
  cases f <;> simp only [Flag.spellings, List.mem_cons, List.not_mem_nil, or_false] at ha
  · rcases ha with rfl | rfl
    · exact .inl ⟨'v', rfl, by decide, by cases level <;> rfl⟩
    · exact .inr ⟨_, _, rfl, by decide, by cases level <;> rfl⟩
  · rcases ha with rfl | rfl
    · exact .inl ⟨'q', rfl, by decide, by cases level <;> rfl⟩
    · exact .inr ⟨_, _, rfl, by decide, by cases level <;> rfl⟩
  · subst ha
    exact .inr ⟨_, _, rfl, by decide, by cases level <;> rfl⟩
  · subst ha
    exact .inr ⟨_, _, rfl, by decide, by cases level <;> rfl⟩

variable {f : Flag} (ha : arg ∈ f.spellings)
include ha

theorem takeArgument_flag (hs : s.trailing = false) :
    s.takeArgument level arg = s.take (.flag f) := by
  rcases spelled_of_mem ha level with ⟨c, h, hc, hk⟩ | ⟨c, rest, h, he, hk⟩
  · have hshorts : s.takeShorts level [c] = s.take (.flag f) >>= .ok := by
      unfold Seen.takeShorts
      rw [hk]
      rfl
    rw [Seen.takeArgument_shorts hs h hc, hshorts]
    cases s.take (.flag f) <;> rfl
  · obtain ⟨name, value, hname, hvalue, harg⟩ := Seen.takeArgument_long h
    obtain rfl := hvalue he
    obtain rfl := hname rfl
    rw [harg s hs]
    unfold Seen.takeLong
    rw [hk]

theorem opened_flag : opened level s arg = none := by
  have hdash : ∃ rest, arg.toList = '-' :: rest := by
    rcases spelled_of_mem ha level with ⟨c, h, -⟩ | ⟨c, rest, h, -⟩ <;> exact ⟨_, h⟩
  obtain ⟨rest, h⟩ := hdash
  unfold opened
  split
  · rfl
  · exact subcommand?_of_dash h

theorem readLevel_flag_iff (hs : s.trailing = false) :
    readLevel level s (arg :: args) = .ok i ↔ ∃ r, s.settle = .ok r ∧ f ∉ r.flags ∧
      readLevel level { r with flags := r.flags ++ [f] } args = .ok i := by
  rw [readLevel_argument_iff (opened_flag ha), takeArgument_flag ha hs]
  simp only [Seen.take, Outcome.bind_eq_ok_iff, Seen.setFlag_eq_ok_iff]
  constructor
  · rintro ⟨_, ⟨r, hr, hf, rfl⟩, hi⟩
    exact ⟨r, hr, hf, hi⟩
  · rintro ⟨r, hr, hf, hi⟩
    exact ⟨_, ⟨r, hr, hf, rfl⟩, hi⟩

/-- A flag that is taken out leaves a line that is accepted, and is none of its level then. -/
theorem exists_readLevel_removed (hs : Open level s) (hu : "--" ∉ u)
    (h : readLevel level s (u ++ arg :: v) = .ok i) :
    ∃ j, readLevel level s (u ++ v) = .ok j ∧ i.command = j.command ∧
      i.flags.Perm (f :: j.flags) ∧ f ∉ flagsAt level s u v := by
  induction u generalizing level s i with
  | nil =>
    obtain ⟨r, hr, hf, hi⟩ := (readLevel_flag_iff ha hs.trailing).1 h
    obtain ⟨own, below, hreads⟩ := exists_reads hi
    -- What is behind the flag is read likewise without it.
    have hown : ∀ g ∈ own, g ∉ r.flags := fun g hg hm =>
      hreads.notMem g hg (List.mem_append_left [f] hm)
    have hclear : ¬ Exclude (r.flags ++ own) := fun hx => hreads.clear <| hx.mono <|
      List.append_subset.2 ⟨fun g hg => by simp [hg], List.subset_append_right _ _⟩
    refine ⟨_, (readLevel_settle_iff hr).2 (hreads.other r.flags hown hclear), rfl, ?_, ?_⟩
    · rw [hreads.flags]
      simp only [List.append_assoc, List.singleton_append]
      exact List.perm_middle
    · rw [flagsAt, levelFlags_settle hr, hreads.held r.flags hown, List.mem_append, not_or]
      exact ⟨hf, fun hm => hreads.notMem f hm (by simp)⟩
  | cons a u ih =>
    obtain ⟨hne, hu⟩ := not_or.1 (mt List.mem_cons.2 hu)
    rw [List.cons_append] at h ⊢
    cases hn : opened level s a with
    | some next =>
      obtain ⟨hh, hcheck, below, hb, rfl⟩ := (readLevel_subcommand_iff hn).1 h
      obtain ⟨j, hj, hc, hp, hf⟩ := ih Seen.open_empty hu hb
      rw [flagsAt_of_opened hn]
      exact ⟨_, (readLevel_subcommand_iff hn).2 ⟨hh, hcheck, j, hj, rfl⟩, hc,
        (hp.append_left s.flags).trans List.perm_middle, hf⟩
    | none =>
      obtain ⟨t, ht, hi⟩ := (readLevel_argument_iff hn).1 h
      obtain ⟨j, hj, hc, hp, hf⟩ := ih (hs.takeArgument (Ne.symm hne) ht).1 hu hi
      rw [flagsAt_of_takeArgument hn ht]
      exact ⟨j, (readLevel_argument_iff hn).2 ⟨t, ht, hj⟩, hc, hp, hf⟩

/-- A flag that is put in leaves a line accepted, if it is not given at that level already and
excludes no other, and no option waits for its value there. -/
theorem exists_readLevel_added (hs : Open level s) (hu : "--" ∉ u)
    (hw : u = [] → ¬ s.Waiting) (hl : ∀ a ∈ u.getLast?, ∀ level, ¬ AwaitsValue level a.toList)
    (hf : f ∉ flagsAt level s u v) (hx : ¬ Exclude (f :: i.flags))
    (h : readLevel level s (u ++ v) = .ok i) :
    ∃ j, readLevel level s (u ++ arg :: v) = .ok j := by
  induction u generalizing level s i with
  | nil =>
    rw [List.nil_append] at h
    obtain ⟨r, hr⟩ := settle_of_readLevel hs.pending (hw rfl) h
    obtain ⟨own, below, hreads⟩ := exists_reads ((readLevel_settle_iff hr).1 h)
    -- What is behind the place is read likewise with the flag, which is none of its own.
    have hflags : r.flags ⊆ i.flags ∧ own ⊆ i.flags := by
      rw [hreads.flags]
      exact ⟨fun g hg => by simp [hg], fun g hg => by simp [hg]⟩
    rw [flagsAt, levelFlags_settle hr, hreads.levelFlags_eq, List.mem_append, not_or] at hf
    have hown : ∀ g ∈ own, g ∉ r.flags ++ [f] := fun g hg hm =>
      (List.mem_append.1 hm).elim (hreads.notMem g hg) fun hgf =>
        hf.2 (List.mem_singleton.1 hgf ▸ hg)
    have hsub : r.flags ++ [f] ++ own ⊆ f :: i.flags :=
      List.append_subset.2 ⟨List.append_subset.2 ⟨List.subset_cons_of_subset f hflags.1,
        fun g hg => List.mem_singleton.1 hg ▸ List.mem_cons_self⟩,
        List.subset_cons_of_subset f hflags.2⟩
    have hclear : ¬ Exclude (r.flags ++ [f] ++ own) := fun hx' => hx (hx'.mono hsub)
    exact ⟨_, (readLevel_flag_iff ha hs.trailing).2
      ⟨r, hr, hf.1, hreads.other _ hown hclear⟩⟩
  | cons a u ih =>
    obtain ⟨hne, hu⟩ := not_or.1 (mt List.mem_cons.2 hu)
    have hl' : ∀ b ∈ u.getLast?, ∀ level, ¬ AwaitsValue level b.toList := by
      cases u with
      | nil => exact fun _ hb => nomatch hb
      | cons b u => exact fun c hc => hl c (List.getLast?_cons_cons.trans hc)
    rw [List.cons_append] at h ⊢
    cases hn : opened level s a with
    | some next =>
      obtain ⟨hh, hcheck, below, hb, rfl⟩ := (readLevel_subcommand_iff hn).1 h
      have hsub : below.flags ⊆ s.flags ++ below.flags := List.subset_append_right _ _
      rw [flagsAt_of_opened hn] at hf
      obtain ⟨j, hj⟩ := ih Seen.open_empty hu (fun _ => nofun) hl' hf
        (fun hx' => hx (hx'.mono (List.cons_subset_cons f hsub))) hb
      exact ⟨_, (readLevel_subcommand_iff hn).2 ⟨hh, hcheck, j, hj, rfl⟩⟩
    | none =>
      obtain ⟨t, ht, hi⟩ := (readLevel_argument_iff hn).1 h
      obtain ⟨ht', hwait⟩ := hs.takeArgument (Ne.symm hne) ht
      have hw' : u = [] → ¬ t.Waiting := by
        rintro rfl hwt
        exact hl a rfl level (hwait hwt)
      rw [flagsAt_of_takeArgument hn ht] at hf
      obtain ⟨j, hj⟩ := ih ht' hu hw' hl' hf hx hi
      exact ⟨j, (readLevel_argument_iff hn).2 ⟨t, ht, hj⟩⟩

/-- Where a flag may stand in an accepted line, it may be put in just if it is not given at that
level already, be it before the place or behind. -/
theorem exists_parse_added_iff (hu : "--" ∉ u)
    (hl : ∀ a ∈ u.getLast?, ∀ level, ¬ AwaitsValue level a.toList)
    (hx : ¬ Exclude (f :: i.flags)) (h : parse (u ++ v) = .ok i) :
    (∃ j, parse (u ++ arg :: v) = .ok j) ↔ f ∉ flagsAt .top {} u v := by
  constructor
  · rintro ⟨j, hj⟩
    obtain ⟨-, -, -, -, hf⟩ := exists_readLevel_removed ha Seen.open_empty hu hj
    exact hf
  · intro hf
    exact exists_readLevel_added ha Seen.open_empty hu (fun _ => nofun) hl hf hx h

end Places

/-- The invocations are of one command, have the same flags and come to the same context. -/
structure Alike (i j : Invocation) : Prop where
  command : i.command = j.command
  has : ∀ f, i.has f = j.has f
  context : ∀ (e : Environment) (config : Config), Context.of i e config = Context.of j e config

theorem alike_of_perm {j : Invocation} (hc : i.command = j.command) (hp : i.flags.Perm j.flags) :
    Alike i j := by
  have hhas (f : Flag) : i.has f = j.has f := hp.contains_eq
  exact ⟨hc, hhas, fun e config => by simp only [Context.of, hhas]⟩

/-- A flag may stand at any place that is not behind two dashes nor between an option and its value.
A line in which it is moved to another such place is accepted with the same meaning, unless the flag
is given a second time. The line is refused just if that is at the level of the place. -/
theorem parse_moved {u' v' : List String} (ha : arg ∈ f.spellings) (hu : "--" ∉ u)
    (hu' : "--" ∉ u') (hl : ∀ a ∈ u'.getLast?, ∀ level, ¬ AwaitsValue level a.toList)
    (hm : u' ++ v' = u ++ v) (hx : ¬ Exclude i.flags) (h : parse (u ++ arg :: v) = .ok i) :
    ((∃ j, parse (u' ++ arg :: v') = .ok j ∧ Alike i j) ∨
      (∃ e, parse (u' ++ arg :: v') = .error e) ∧ 1 < i.flags.count f) ∧
    ((∃ e, parse (u' ++ arg :: v') = .error e) ↔ f ∈ flagsAt .top {} u' v') := by
  obtain ⟨k, hk, hc, hp, -⟩ := exists_readLevel_removed ha Seen.open_empty hu h
  have hk' : parse (u' ++ v') = .ok k := hm ▸ hk
  have hxk : ¬ Exclude (f :: k.flags) := fun h => hx (h.mono hp.symm.subset)
  have hplace := exists_parse_added_iff ha hu' hl hxk hk'
  cases hj : parse (u' ++ arg :: v') with
  | ok j =>
    have hf : f ∉ flagsAt .top {} u' v' := hplace.1 ⟨j, hj⟩
    obtain ⟨k', hk'', hc', hp', -⟩ := exists_readLevel_removed ha Seen.open_empty hu' hj
    obtain rfl := Except.ok.inj (hk'.symm.trans hk'')
    exact ⟨.inl ⟨j, rfl, alike_of_perm (hc.trans hc'.symm) (hp.trans hp'.symm)⟩,
      iff_of_false nofun hf⟩
  | error e =>
    have hf : f ∈ flagsAt .top {} u' v' := by
      by_contra hf
      obtain ⟨j, hj'⟩ := hplace.2 hf
      cases hj.symm.trans hj'
    have hcount : 0 < k.flags.count f := List.count_pos_iff.2 (flagsAt_subset hk' hf)
    refine ⟨.inr ⟨⟨e, rfl⟩, ?_⟩, iff_of_true ⟨e, rfl⟩ hf⟩
    rw [hp.count_eq, List.count_cons_self]
    omega

/-- The letter in the group is given at the level below, and so it counts there only. -/
example : flagsAt .top {} [] ["check", "-vr", "\x7b\x7d", "f"] = [] ∧
    flagsAt .top {} ["check", "-vr", "\x7b\x7d", "f"] [] = [.verbose] := by decide

theorem parse_moved_scan :
    parse ["--json", "scan", "--input", "rows", "f", "-v"] =
        .ok ⟨.scan "f" (some "rows") none, [.json, .verbose]⟩ ∧
      ∃ j, parse ["--json", "scan", "-v", "--input", "rows", "f"] = .ok j ∧
        Alike ⟨.scan "f" (some "rows") none, [.json, .verbose]⟩ j := by
  have hline : parse (["--json", "scan", "--input", "rows", "f"] ++ "-v" :: []) =
      .ok ⟨.scan "f" (some "rows") none, [.json, .verbose]⟩ := rfl
  have hscan : ∀ a ∈ ["--json", "scan"].getLast?, ∀ level, ¬ AwaitsValue level a.toList := by
    intro a ha level h
    obtain rfl : "scan" = a := Option.some.inj ha
    have hs : "scan".toList = ['s', 'c', 'a', 'n'] := rfl
    rw [hs] at h
    cases h
  have hv : "-v" ∈ Flag.verbose.spellings := by decide
  have hplaces : ["--json", "scan"] ++ ["--input", "rows", "f"] =
      ["--json", "scan", "--input", "rows", "f"] ++ [] := rfl
  have hclear : ¬ Exclude [.json, .verbose] := by
    unfold Exclude
    decide
  rcases (parse_moved hv (by decide) (by decide) hscan hplaces hclear hline).1 with
    hmoved | ⟨-, htwice⟩
  · exact ⟨hline, hmoved⟩
  · exact absurd htwice (by decide)

/-- A letter in a group gives a flag as well, and what is accepted where the two are at different
levels is refused where they come together. -/
theorem parse_moved_group :
    parse ["-v", "check", "-vr", "\x7b\x7d", "f"] =
        .ok ⟨.check "f" "\x7b\x7d", [.verbose, .verbose]⟩ ∧
      (∀ f : Flag, ["-v", "check", "-vr", "\x7b\x7d", "f"].countP (· ∈ f.spellings) ≤ 1) ∧
      parse ["check", "-vr", "\x7b\x7d", "f", "-v"] = .error .conflict := by
  refine ⟨rfl, fun f => ?_, rfl⟩
  cases f <;> decide

end ColumnFilter.CommandLine
