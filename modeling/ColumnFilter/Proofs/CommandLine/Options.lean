import ColumnFilter.CommandLine.Arguments
import ColumnFilter.Proofs.Outcome
import Mathlib.Data.List.TakeWhile

/-! # What an argument does at a level

An option is entered when the next argument is taken up, so an argument does to a level what it
does once nothing is pending. The flags of a level have no part in that, apart from the rule that
none of them is given twice.
-/

namespace ColumnFilter.CommandLine.Seen

variable {level : Level} {s t r : Seen} {f : Flag} {o : ValueOption} {arg : String}
  {waits waits' : Prop} {run run' : Seen → Except Refusal Seen} {new new' : List Flag}

section Settling

theorem enter_eq_ok_iff {v : String} : s.enter o v = .ok t ↔
    ¬ (s.value? o).isSome ∧ ¬ (o = .input ∧ v = "") ∧
      { s with values := s.values ++ [(o, v)] } = t := by
  unfold enter
  split
  · next h => simp [h]
  · next h =>
    split
    · next h' => simp [h']
    · next h' => simp [h, h']

theorem settle_of_pending (h : s.pending = none) : s.settle = .ok s := by
  rw [settle, h]

/-- Nothing is pending any more, and all but the values is as it was. -/
theorem exists_of_settle (h : s.settle = .ok t) :
    ∃ values, t = { s with pending := none, values := values } := by
  unfold settle at h
  split at h
  · next hp =>
    obtain rfl := Except.ok.inj h
    exact ⟨s.values, by rw [← hp]⟩
  · cases h
  · exact ⟨_, (enter_eq_ok_iff.1 h).2.2.symm⟩

theorem settle_settled (h : s.settle = .ok t) : t.settle = .ok t := by
  obtain ⟨values, rfl⟩ := exists_of_settle h
  rfl

/-- Only the values and what is pending matter to what is entered. -/
theorem settle_congr {values : List (ValueOption × String)}
    (h : s.settle = .ok { s with pending := none, values := values })
    (hp : r.pending = s.pending) (hv : r.values = s.values) :
    r.settle = .ok { r with pending := none, values := values } := by
  obtain ⟨flags, vs, operand, pending, trailing⟩ := s
  obtain ⟨_, _, _, _, _⟩ := r
  cases hp
  cases hv
  match pending with
  | none =>
    obtain rfl : vs = values := congrArg Seen.values (Except.ok.inj h)
    rfl
  | some (o, none) => cases h
  | some (o, some v) =>
    obtain ⟨hn, hi, hv⟩ := enter_eq_ok_iff.1 h
    obtain rfl : vs ++ [(o, v)] = values := congrArg Seen.values hv
    exact enter_eq_ok_iff.2 ⟨hn, hi, rfl⟩

/-- The option that is pending is entered first. -/
structure Settling (run : Seen → Except Refusal Seen) : Prop where
  ok : ∀ {s t}, run s = .ok t → ∃ r, s.settle = .ok r
  eq : ∀ {s r}, s.settle = .ok r → run s = run r

theorem Settling.error (e : Refusal) : Settling fun _ => .error e := ⟨nofun, fun _ => rfl⟩

theorem settling_settle : Settling settle where
  ok h := ⟨_, h⟩
  eq h := h.trans (settle_settled h).symm

theorem Settling.bind (h : Settling run) (k : Seen → Except Refusal Seen) :
    Settling fun s => run s >>= k where
  ok hr := by
    obtain ⟨t, ht, -⟩ := Outcome.bind_eq_ok_iff.1 hr
    exact h.ok ht
  eq hr := congrArg (· >>= k) (h.eq hr)

theorem settling_take (kind : OptionKind) : Settling (take · kind) := settling_settle.bind _

theorem settling_takeWith (o : ValueOption) (v : String) : Settling (takeWith · o v) :=
  settling_settle.bind _

theorem settling_takeLong (name : String) (value : Option String) :
    Settling (takeLong level · name value) := by
  unfold takeLong
  split
  · exact .error _
  · exact settling_takeWith _ _
  · exact settling_take _
  · exact .error _

theorem settling_takeShorts (c : Char) (letters : List Char) :
    Settling (takeShorts level · (c :: letters)) := by
  unfold takeShorts
  split
  · exact .error _
  · exact settling_takeWith _ _
  · exact settling_takeWith _ _
  · exact (settling_take _).bind _

theorem settling_takeOperand : Settling (takeOperand level · arg) where
  ok h := by
    unfold takeOperand at h
    split at h
    · exact (settling_settle.bind _).ok h
    · cases h
  eq hr := by
    obtain ⟨values, rfl⟩ := exists_of_settle hr
    simp only [takeOperand, refuse, hr, settle_settled hr]

end Settling

section Flags

/-- The new flags are added to any others that they are not among, and nothing else depends on
those. -/
structure Adds (run : Seen → Except Refusal Seen) (s t : Seen) (new : List Flag) : Prop where
  flags : t.flags = s.flags ++ new
  notMem : ∀ g ∈ new, g ∉ s.flags
  other : ∀ l, (∀ g ∈ new, g ∉ l) →
    run { s with flags := l } = .ok { t with flags := l ++ new }

theorem Adds.bind (h : Adds run s t new) (h' : Adds run' t r new') :
    Adds (fun s => run s >>= run') s r (new ++ new') where
  flags := by rw [h'.flags, h.flags, List.append_assoc]
  notMem := by
    have hold : ∀ g ∈ new', g ∉ s.flags := fun g hg hs =>
      h'.notMem g hg (h.flags ▸ List.mem_append_left new hs)
    exact List.forall_mem_append.2 ⟨h.notMem, hold⟩
  other l hl := by
    obtain ⟨hnew, hnew'⟩ := List.forall_mem_append.1 hl
    have hboth : ∀ g ∈ new', g ∉ l ++ new := fun g hg hm =>
      (List.mem_append.1 hm).elim (hnew' g hg) fun hn =>
        h'.notMem g hg (h.flags ▸ List.mem_append_right s.flags hn)
    rw [h.other l hnew, Outcome.ok_bind, h'.other _ hboth, List.append_assoc]

theorem Adds.congr (h : Adds run s t new) (hr : ∀ l, run' { s with flags := l } =
    run { s with flags := l }) : Adds run' s t new :=
  ⟨h.flags, h.notMem, fun l hl => (hr l).trans (h.other l hl)⟩

theorem adds_nil (hf : t.flags = s.flags)
    (h : ∀ l, run { s with flags := l } = .ok { t with flags := l }) : Adds run s t [] where
  flags := by rw [hf, List.append_nil]
  notMem := List.forall_mem_nil _
  other l _ := by rw [h, List.append_nil]

theorem adds_settle (h : s.settle = .ok t) : Adds settle s t [] := by
  obtain ⟨values, rfl⟩ := exists_of_settle h
  exact adds_nil rfl fun l => settle_congr h rfl rfl

theorem adds_enter {v : String} (h : s.enter o v = .ok t) : Adds (enter · o v) s t [] := by
  obtain ⟨hn, hi, rfl⟩ := enter_eq_ok_iff.1 h
  exact adds_nil rfl fun l => enter_eq_ok_iff.2 ⟨hn, hi, rfl⟩

theorem setFlag_eq_ok_iff :
    s.setFlag f = .ok t ↔ f ∉ s.flags ∧ { s with flags := s.flags ++ [f] } = t := by
  unfold setFlag
  split
  · next h => simp [h]
  · next h => simp [h]

theorem adds_setFlag (h : s.setFlag f = .ok t) : Adds (setFlag · f) s t [f] := by
  obtain ⟨hf, rfl⟩ := setFlag_eq_ok_iff.1 h
  exact ⟨rfl, List.forall_mem_singleton.2 hf, fun l hl =>
    setFlag_eq_ok_iff.2 ⟨hl f (List.mem_singleton_self f), rfl⟩⟩

end Flags

section Regular

/-- What is run adds flags, does not end the options, and leaves something pending only if an option
is to wait for its value. -/
structure Regular (waits : Prop) (run : Seen → Except Refusal Seen) : Prop where
  adds : ∀ {s t}, run s = .ok t → ∃ new, Adds run s t new
  trailing : ∀ {s t}, run s = .ok t → t.trailing = s.trailing
  pending : ∀ {s t}, run s = .ok t → ¬ waits → s.pending = none → t.pending = none

theorem Regular.mono (h : Regular waits run) (hw : waits → waits') : Regular waits' run :=
  ⟨h.adds, h.trailing, fun hr hn => h.pending hr (mt hw hn)⟩

theorem Regular.bind (h : Regular waits run) (h' : Regular waits run') :
    Regular waits fun s => run s >>= run' where
  adds hr := by
    obtain ⟨t, ht, hr⟩ := Outcome.bind_eq_ok_iff.1 hr
    obtain ⟨new, hn⟩ := h.adds ht
    obtain ⟨new', hn'⟩ := h'.adds hr
    exact ⟨new ++ new', hn.bind hn'⟩
  trailing hr := by
    obtain ⟨t, ht, hr⟩ := Outcome.bind_eq_ok_iff.1 hr
    exact (h'.trailing hr).trans (h.trailing ht)
  pending hr hw hp := by
    obtain ⟨t, ht, hr⟩ := Outcome.bind_eq_ok_iff.1 hr
    exact h'.pending hr hw (h.pending ht hw hp)

theorem regular_of_ne_ok (h : ∀ s t, run s ≠ .ok t) : Regular waits run where
  adds hr := absurd hr (h _ _)
  trailing hr := absurd hr (h _ _)
  pending hr := absurd hr (h _ _)

theorem regular_error (e : Refusal) : Regular waits fun _ => .error e :=
  regular_of_ne_ok fun _ _ h => nomatch h

theorem regular_ok : Regular waits .ok where
  adds h := by
    obtain rfl := Except.ok.inj h
    exact ⟨[], adds_nil rfl fun l => rfl⟩
  trailing h := by rw [Except.ok.inj h]
  pending h _ hp := Except.ok.inj h ▸ hp

theorem regular_settle : Regular waits settle where
  adds h := ⟨[], adds_settle h⟩
  trailing h := by
    obtain ⟨values, rfl⟩ := exists_of_settle h
    rfl
  pending h _ _ := by
    obtain ⟨values, rfl⟩ := exists_of_settle h
    rfl

theorem regular_enter (o : ValueOption) (v : String) : Regular waits (enter · o v) where
  adds h := ⟨[], adds_enter h⟩
  trailing h := by
    obtain ⟨-, -, rfl⟩ := enter_eq_ok_iff.1 h
    rfl
  pending h _ hp := by
    obtain ⟨-, -, rfl⟩ := enter_eq_ok_iff.1 h
    exact hp

theorem regular_setFlag (f : Flag) : Regular waits (setFlag · f) where
  adds h := ⟨[f], adds_setFlag h⟩
  trailing h := by
    obtain ⟨-, rfl⟩ := setFlag_eq_ok_iff.1 h
    rfl
  pending h _ hp := by
    obtain ⟨-, rfl⟩ := setFlag_eq_ok_iff.1 h
    exact hp

theorem regular_wait (o : ValueOption) (hw : waits) :
    Regular waits fun s => .ok { s with pending := some (o, none) } where
  adds h := by
    obtain rfl := Except.ok.inj h
    exact ⟨[], adds_nil rfl fun l => rfl⟩
  trailing h := by rw [← Except.ok.inj h]
  pending _ hn _ := absurd hw hn

theorem regular_take (kind : OptionKind) : Regular (∃ o, kind = .value o) (take · kind) := by
  unfold take
  refine regular_settle.bind ?_
  cases kind with
  | flag f => exact regular_setFlag f
  | value o => exact regular_wait o ⟨o, rfl⟩
  | help | version => exact regular_error _

theorem regular_takeWith (o : ValueOption) (v : String) : Regular waits (takeWith · o v) :=
  regular_settle.bind (regular_enter o v)

/-- The letters are those of flags, but for the last one, which is that of an option with a
value. -/
inductive EndInOption (level : Level) : List Char → Prop
  | last {c : Char} {o : ValueOption} :
      shortOption? level c = some (.value o) → EndInOption level [c]
  | flag {c : Char} {f : Flag} {letters : List Char} : shortOption? level c = some (.flag f) →
      EndInOption level letters → EndInOption level (c :: letters)

/-- The argument is an option of the level, the value of which is the next argument. -/
inductive AwaitsValue (level : Level) : List Char → Prop
  | long {name : List Char} {o : ValueOption} :
      longOption? level (String.ofList name) = some (.value o) →
      AwaitsValue level ('-' :: '-' :: name)
  | short {letters : List Char} : EndInOption level letters → AwaitsValue level ('-' :: letters)

theorem regular_takeLong (name : String) (value : Option String) :
    Regular (value = none ∧ ∃ o, longOption? level name = some (.value o))
      (takeLong level · name value) := by
  unfold takeLong
  cases h : longOption? level name with
  | none => exact regular_error _
  | some kind =>
    cases value with
    | none =>
      have hr : Regular (∃ o, some kind = some (.value o)) (take · kind) :=
        (regular_take kind).mono fun ⟨o, ho⟩ => ⟨o, congrArg some ho⟩
      cases kind <;> exact hr.mono fun ho => ⟨rfl, ho⟩
    | some v =>
      cases kind with
      | value o => exact regular_takeWith o v
      | flag | help | version => exact regular_error _

theorem regular_takeShorts (letters : List Char) :
    Regular (EndInOption level letters) (takeShorts level · letters) := by
  induction letters with
  | nil => exact regular_ok
  | cons c rest ih =>
    unfold takeShorts
    rcases hk : shortOption? level c with _ | kind
    · exact regular_error _
    cases kind with
    | flag f => exact ((regular_take _).mono nofun).bind (ih.mono (.flag hk))
    | value o =>
      cases rest with
      | nil => exact ((regular_take _).mono fun _ => .last hk).bind regular_ok
      | cons d rest =>
        split
        · exact regular_error _
        · exact regular_takeWith _ _
        · exact regular_takeWith _ _
        · next hk _ hvalue => exact absurd (Option.some.inj hk).symm (hvalue _ _ _ rfl)
    | help | version =>
      refine regular_of_ne_ok fun s t ht => ?_
      obtain ⟨r, hr, -⟩ := Outcome.bind_eq_ok_iff.1 ht
      obtain ⟨_, _, hr⟩ := Outcome.bind_eq_ok_iff.1 hr
      cases hr

end Regular

section Arguments

variable {c : Char} {rest : List Char}

theorem takeArgument_trailing (h : s.trailing = true) :
    s.takeArgument level arg = s.takeOperand level arg := by
  rw [takeArgument, if_pos h]

theorem takeArgument_dashes (h : s.trailing = false) :
    s.takeArgument level "--" = .ok { s with trailing := true } := by
  rw [takeArgument, if_neg (Bool.eq_false_iff.1 h)]
  rfl

theorem takeArgument_long (ha : arg.toList = '-' :: '-' :: c :: rest) :
    ∃ (name : List Char) (value : Option String), (value = none → name = c :: rest) ∧
      ('=' ∉ c :: rest → value = none) ∧ ∀ s : Seen, s.trailing = false →
        s.takeArgument level arg = s.takeLong level (String.ofList name) value := by
  have hall := List.takeWhile_append_dropWhile (p := fun d => d ≠ '=') (l := c :: rest)
  cases hd : (c :: rest).dropWhile (· ≠ '=') with
  | nil =>
    rw [hd, List.append_nil] at hall
    refine ⟨c :: rest, none, fun _ => rfl, fun _ => rfl, fun s h => ?_⟩
    simp only [takeArgument, h, ha, hd, hall, Bool.false_eq_true, if_false]
  | cons d value =>
    have hmem (he : '=' ∉ c :: rest) : (c :: rest).dropWhile (· ≠ '=') = [] :=
      List.dropWhile_eq_nil_iff.2 fun e hm => decide_eq_true fun h => he (h ▸ hm)
    refine ⟨(c :: rest).takeWhile (· ≠ '='), some (String.ofList value), nofun, fun he => ?_,
      fun s h => ?_⟩
    · cases hd.symm.trans (hmem he)
    · simp only [takeArgument, h, ha, hd, Bool.false_eq_true, if_false]

theorem takeArgument_shorts (h : s.trailing = false) (ha : arg.toList = '-' :: c :: rest)
    (hc : c ≠ '-') : s.takeArgument level arg = s.takeShorts level (c :: rest) := by
  rw [takeArgument, if_neg (Bool.eq_false_iff.1 h), ha]
  split
  · next he => exact absurd (List.cons.inj (List.cons.inj he).2).1 hc
  · next he => exact absurd (List.cons.inj (List.cons.inj he).2).1 hc
  · next he => rw [← (List.cons.inj he).2]
  · next hn => exact absurd rfl (hn c rest)

def Waiting (s : Seen) : Prop := ∃ o, s.pending = some (o, none)

theorem not_waiting_of_settle (h : s.settle = .ok t) : ¬ s.Waiting := by
  rintro ⟨o, hp⟩
  rw [settle, hp] at h
  cases h

section Plain

variable (h : s.trailing = false) (ha : ∀ c rest, arg.toList ≠ '-' :: c :: rest)
include h ha

theorem takeArgument_plain : s.takeArgument level arg =
    match s.pending with
    | some (o, none) => .ok { s with pending := some (o, some arg) }
    | _ => s.takeOperand level arg := by
  rw [takeArgument, if_neg (Bool.eq_false_iff.1 h)]
  split
  · next he => exact absurd he (ha _ _)
  · next he => exact absurd he (ha _ _)
  · next he => exact absurd he (ha _ _)
  · rfl

theorem takeArgument_value (hp : s.pending = some (o, none)) :
    s.takeArgument level arg = .ok { s with pending := some (o, some arg) } := by
  rw [takeArgument_plain h ha, hp]

theorem takeArgument_operand (hw : ¬ s.Waiting) :
    s.takeArgument level arg = s.takeOperand level arg := by
  rw [takeArgument_plain h ha]
  split
  · next o hp => exact absurd ⟨o, hp⟩ hw
  · rfl

end Plain

inductive Form (level : Level) (arg : String) : Prop
  | dashes : arg = "--" → Form level arg
  | option {run : Seen → Except Refusal Seen} : Settling run →
      Regular (AwaitsValue level arg.toList) run →
      (∀ s : Seen, s.trailing = false → s.takeArgument level arg = run s) → Form level arg
  | plain : (∀ c rest, arg.toList ≠ '-' :: c :: rest) → Form level arg

theorem form (level : Level) (arg : String) : Form level arg := by
  by_cases h : ∃ c rest, arg.toList = '-' :: c :: rest
  · obtain ⟨c, rest, h⟩ := h
    by_cases hc : c = '-'
    · subst hc
      cases rest with
      | nil => exact .dashes (String.toList_injective h)
      | cons c rest =>
        obtain ⟨name, value, hname, -, harg⟩ := takeArgument_long h
        refine .option (settling_takeLong _ _) ((regular_takeLong _ _).mono ?_) harg
        rintro ⟨hvalue, o, ho⟩
        rw [hname hvalue] at ho
        exact h ▸ .long ho
    · exact .option (settling_takeShorts c rest)
        ((regular_takeShorts (c :: rest)).mono fun hw => h ▸ .short hw)
        fun s ht => takeArgument_shorts ht h hc
  · exact .plain fun c rest ha => h ⟨c, rest, ha⟩

theorem settle_of_takeArgument (hw : ¬ s.Waiting) (ha : s.trailing = false → arg ≠ "--")
    (h : s.takeArgument level arg = .ok t) : ∃ r, s.settle = .ok r := by
  cases ht : s.trailing with
  | true =>
    rw [takeArgument_trailing ht] at h
    exact settling_takeOperand.ok h
  | false =>
    cases form level arg with
    | dashes hd => exact absurd hd (ha ht)
    | option hrun _ hs => exact hrun.ok ((hs s ht).symm.trans h)
    | plain hp =>
      rw [takeArgument_operand ht hp hw] at h
      exact settling_takeOperand.ok h

theorem takeArgument_settle (ha : s.trailing = false → arg ≠ "--") (hr : s.settle = .ok r) :
    s.takeArgument level arg = r.takeArgument level arg := by
  have hr' := settle_settled hr
  have htrailing : r.trailing = s.trailing := by
    obtain ⟨values, rfl⟩ := exists_of_settle hr
    rfl
  cases ht : s.trailing with
  | true =>
    rw [takeArgument_trailing ht, takeArgument_trailing (htrailing.trans ht)]
    exact settling_takeOperand.eq hr
  | false =>
    cases form level arg with
    | dashes hd => exact absurd hd (ha ht)
    | option hrun _ hs => rw [hs s ht, hs r (htrailing.trans ht), hrun.eq hr]
    | plain hp =>
      rw [takeArgument_operand ht hp (not_waiting_of_settle hr),
        takeArgument_operand (htrailing.trans ht) hp (not_waiting_of_settle hr')]
      exact settling_takeOperand.eq hr

theorem takeOperand_eq_ok_iff : s.takeOperand level arg = .ok t ↔
    (level.takesOperand ∧ s.operand = none) ∧
      ∃ r, s.settle = .ok r ∧ { r with operand := some arg } = t := by
  unfold takeOperand
  split
  · next h =>
    rw [Outcome.bind_eq_ok_iff]
    exact ⟨fun ⟨r, hr, ht⟩ => ⟨h, r, hr, Except.ok.inj ht⟩,
      fun ⟨_, r, hr, ht⟩ => ⟨r, hr, congrArg _ ht⟩⟩
  · next h => exact iff_of_false nofun fun h' => h h'.1

theorem adds_takeOperand (h : s.takeOperand level arg = .ok t) :
    Adds (takeOperand level · arg) s t [] := by
  obtain ⟨hc, r, hr, rfl⟩ := takeOperand_eq_ok_iff.1 h
  obtain ⟨values, rfl⟩ := exists_of_settle hr
  exact adds_nil rfl fun l => takeOperand_eq_ok_iff.2 ⟨hc, _, settle_congr hr rfl rfl, rfl⟩

theorem exists_adds_takeArgument (h : s.takeArgument level arg = .ok t) :
    ∃ new, Adds (takeArgument level · arg) s t new := by
  cases ht : s.trailing with
  | true =>
    rw [takeArgument_trailing ht] at h
    exact ⟨[], (adds_takeOperand h).congr fun l => takeArgument_trailing ht⟩
  | false =>
    cases form level arg with
    | dashes hd =>
      subst hd
      rw [takeArgument_dashes ht] at h
      obtain rfl := Except.ok.inj h
      exact ⟨[], adds_nil rfl fun l => takeArgument_dashes ht⟩
    | option _ hrun hs =>
      obtain ⟨new, hnew⟩ := hrun.adds ((hs s ht).symm.trans h)
      exact ⟨new, hnew.congr fun l => hs _ ht⟩
    | plain hp =>
      by_cases hw : s.Waiting
      · obtain ⟨o, ho⟩ := hw
        rw [takeArgument_value ht hp ho] at h
        obtain rfl := Except.ok.inj h
        exact ⟨[], adds_nil rfl fun l => takeArgument_value ht hp ho⟩
      · rw [takeArgument_operand ht hp hw] at h
        exact ⟨[], (adds_takeOperand h).congr fun l => takeArgument_operand ht hp hw⟩

structure Open (level : Level) (s : Seen) : Prop where
  trailing : s.trailing = false
  pending : level.hasSubcommands = true → s.pending = none

theorem open_empty : Open level {} := ⟨rfl, fun _ => rfl⟩

theorem longOption?_ne_value (hl : level.hasSubcommands = true) (name : String) :
    longOption? level name ≠ some (.value o) := by
  cases level <;> cases hl <;> unfold longOption? <;> split <;> simp_all

theorem shortOption?_ne_value (hl : level.hasSubcommands = true) (c : Char) :
    shortOption? level c ≠ some (.value o) := by
  cases level <;> cases hl <;> unfold shortOption? <;> split <;> simp_all

theorem EndInOption.not_hasSubcommands {letters : List Char} (h : EndInOption level letters)
    (hl : level.hasSubcommands = true) : False := by
  induction h with
  | last hc => exact shortOption?_ne_value hl _ hc
  | flag _ _ ih => exact ih

theorem AwaitsValue.not_hasSubcommands {a : List Char} (h : AwaitsValue level a) :
    ¬ level.hasSubcommands = true := by
  intro hl
  cases h with
  | long hn => exact longOption?_ne_value hl _ hn
  | short he => exact he.not_hasSubcommands hl

/-- An argument does not end the options unless it is two dashes, and after it an option waits for
its value only if it is that option. -/
theorem Open.takeArgument (hs : Open level s) (ha : arg ≠ "--")
    (h : s.takeArgument level arg = .ok t) :
    Open level t ∧ (t.Waiting → AwaitsValue level arg.toList) := by
  cases form level arg with
  | dashes hd => exact absurd hd ha
  | option hsettle hrun hs' =>
    rw [hs' s hs.trailing] at h
    obtain ⟨r, hr⟩ := hsettle.ok h
    rw [hsettle.eq hr] at h
    obtain ⟨values, rfl⟩ := exists_of_settle hr
    have hnone (hw : ¬ AwaitsValue level arg.toList) : t.pending = none := hrun.pending h hw rfl
    refine ⟨⟨(hrun.trailing h).trans hs.trailing, fun hl => hnone fun hw => ?_⟩, ?_⟩
    · exact hw.not_hasSubcommands hl
    · rintro ⟨o, ho⟩
      exact Classical.byContradiction fun hw => nomatch (hnone hw).symm.trans ho
  | plain hp =>
    by_cases hw : s.Waiting
    · obtain ⟨o, ho⟩ := hw
      rw [takeArgument_value hs.trailing hp ho] at h
      obtain rfl := Except.ok.inj h
      refine ⟨⟨hs.trailing, fun hl => ?_⟩, nofun⟩
      cases ho.symm.trans (hs.pending hl)
    · rw [takeArgument_operand hs.trailing hp hw] at h
      obtain ⟨-, r, hr, rfl⟩ := takeOperand_eq_ok_iff.1 h
      obtain ⟨values, rfl⟩ := exists_of_settle hr
      exact ⟨⟨hs.trailing, fun _ => rfl⟩, nofun⟩

end Arguments

end ColumnFilter.CommandLine.Seen
