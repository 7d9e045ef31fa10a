import ColumnFilter.Proofs.Timestamp.Clock
import ColumnFilter.Proofs.Timestamp.DateTime

/-! # The internet profile

The texts of a date and time of day in the internet profile of ISO 8601, with a
year of four digits and an offset of whole minutes. The strict reader takes each
of them for the date and time that it denotes.
-/

namespace ColumnFilter.Timestamp

open Text (Ends ends_cons padded isBlank)

/-- The texts of an offset of so many seconds. -/
inductive SpellsZone : List Char → ℤ → Prop
  | universal {c : Char} : c ∈ ['Z', 'z'] → SpellsZone [c] 0
  | offset (west : Bool) {hours minutes : ℕ} : hours < 24 → minutes < 60 →
      SpellsZone (offsetChars west true hours minutes) (offsetSeconds west hours minutes)

/-- The texts of a date and time, of whose fraction nine digits count. -/
inductive DateTime.Spells : List Char → DateTime → Prop
  | intro {d : DateTime} {c : Char} {fraction : List (Fin 10)} {zone : List Char} :
      d.Exists → d.date.year < 10000 → c ∈ ['T', 't', ' '] →
      billionths fraction = d.nanosecond → SpellsZone zone d.offset →
      Spells (dateChars d.date.year d.date.month d.date.day ++ c :: (clockChars d.hour d.minute ++
        ':' :: (padded 2 d.second ++ (fractionChars fraction ++ zone)))) d

variable {zone s : List Char} {offset : ℤ} {d : DateTime}

namespace SpellsZone

theorem ne_nil (h : SpellsZone zone offset) : zone ≠ [] := by
  cases h <;> exact List.cons_ne_nil _ _

theorem ends {p : Char → Bool} (hp : ['Z', 'z', '+', '-'].all (!p ·) = true)
    (h : SpellsZone zone offset) : Ends p zone := by
  have hp : ∀ c ∈ ['Z', 'z', '+', '-'], p c = false := fun c hc => by
    simpa using List.all_eq_true.1 hp c hc
  cases h with
  | universal hc => exact ends_cons.2 (hp _ (List.mem_append_left ['+', '-'] hc))
  | offset west => exact ends_offsetChars (hp '+' (by decide)) (hp '-' (by decide)) _ _ _ _

theorem not_isBlank (h : SpellsZone zone offset) : ∀ c ∈ zone, isBlank c = false := by
  cases h with
  | universal hc =>
    rcases List.mem_pair.1 hc with rfl | rfl
    · exact List.forall_mem_singleton.2 (by decide)
    · exact List.forall_mem_singleton.2 (by decide)
  | offset west => exact not_isBlank_offsetChars _ _ _ _

theorem readZone_eq (h : SpellsZone zone offset) : readZone zone = some (offset, []) := by
  cases h with
  | universal hc => rcases List.mem_pair.1 hc with rfl | rfl <;> rfl
  | offset west hh hm => rw [readZone_offsetChars (by omega) (by omega), if_pos ⟨rfl, hm⟩]

end SpellsZone

theorem exists_offsetSeconds_eq (hlt : offset.natAbs < 86400) (hdvd : 60 ∣ offset) :
    ∃ west hours minutes,
      hours < 24 ∧ minutes < 60 ∧ offsetSeconds west hours minutes = offset := by
  refine ⟨decide (offset < 0), offset.natAbs / 3600, offset.natAbs / 60 % 60, by omega, by omega,
    ?_⟩
  unfold offsetSeconds
  simp only [decide_eq_true_eq]
  split <;> omega

theorem exists_spellsZone_iff :
    (∃ zone, SpellsZone zone offset) ↔ offset.natAbs < 86400 ∧ 60 ∣ offset := by
  constructor
  · rintro ⟨zone, hc | ⟨west, hh, hm⟩⟩
    · decide
    · rw [← Int.dvd_natAbs, natAbs_offsetSeconds]
      omega
  · rintro ⟨hlt, hdvd⟩
    obtain ⟨west, hours, minutes, hh, hm, rfl⟩ := exists_offsetSeconds_eq hlt hdvd
    exact ⟨_, .offset west hh hm⟩

namespace DateTime

theorem Spells.readStrict_eq (h : d.Spells s) : readStrict s = some d.fields := by
  obtain ⟨hd, hy, hc, hf, hz⟩ := h
  have hmo := hd.date.month_le
  have hda := hd.date.day_le_thirtyOne
  obtain ⟨-, hh, hmi, hs, -⟩ := hd
  refine (readStrict_clock hy (by omega) (by omega) (by omega) (by omega) hc).trans ?_
  refine (bind_of_eq_some (expect_cons _ _) _).trans ?_
  refine (bind_of_eq_some (readNumber_two (by omega) _) _).trans ?_
  refine (bind_of_eq_some (readFraction_fractionChars _ (hz.ends (by decide)) ?_) _).trans ?_
  · intro hp
    have he := hz.ends (p := (· == '.')) (by decide) '.' hp
    exact absurd he (by decide)
  refine (bind_of_eq_some hz.readZone_eq _).trans ?_
  rw [hf]
  rfl

theorem Spells.ofText?_eq (h : d.Spells s) : ofText? s = some d.timestamp := by
  have hr : (readStrict s >>= Fields.timestamp?) = some d.timestamp := by
    rw [h.readStrict_eq]
    obtain ⟨hd, hy, -, -, -⟩ := h
    exact (timestamp?_fields hy).trans (if_pos hd)
  rw [ofText?, readers, List.findSome?_cons]
  simp only [hr]

/-- What is written in the profile is whole minutes off universal time, to the nanosecond. -/
theorem exists_spells_iff : (∃ s, d.Spells s) ↔
    d.Exists ∧ d.date.year < 10000 ∧ d.nanosecond < 10 ^ 9 ∧ 60 ∣ d.offset := by
  constructor
  · rintro ⟨s, hd, hy, -, hf, hz⟩
    exact ⟨hd, hy, hf ▸ billionths_lt _, (exists_spellsZone_iff.1 ⟨_, hz⟩).2⟩
  · rintro ⟨hd, hy, hn, ho⟩
    obtain ⟨fraction, hf⟩ := exists_billionths_eq hn
    obtain ⟨zone, hz⟩ := exists_spellsZone_iff.2 ⟨hd.offset_lt, ho⟩
    exact ⟨_, .intro hd hy (c := 'T') (by decide) hf hz⟩

end DateTime

end ColumnFilter.Timestamp
