import ColumnFilter.Proofs.Json.Spelling
import ColumnFilter.Proofs.Text.Lowercase
import ColumnFilter.Proofs.Text.SameLetters
import ColumnFilter.RowKey.Json

/-! # Normal row keys

A key is normal if it is the key of its own text. The keys of identifiers are
the normal ones, and letters of ASCII count alike in either case whatever is
around them. A key that is read from JSON is the string as it stands, so it may
be one that no identifier has.
-/

namespace ColumnFilter.RowKey

open Json
open Text (IsLower SameLetter)

variable {k : RowKey} {s s' text : String}

/-- The key is the key of its own text. -/
def Normal (k : RowKey) : Prop := ofIdentifier k.text = k

instance (k : RowKey) : Decidable k.Normal := inferInstanceAs (Decidable (_ = _))

/-- The key is made of an identifier. -/
inductive FromIdentifier : RowKey → Prop
  | any {α : Type} [ToString α] (id : α) : FromIdentifier (of id)
  | string (id : String) : FromIdentifier id
  | slice (id : String.Slice) : FromIdentifier id

section Identifiers

theorem normal_iff_lowercase : k.Normal ↔ Text.lowercase k.text.toList = k.text.toList := by
  obtain ⟨text⟩ := k
  rw [Normal, ofIdentifier, RowKey.mk.injEq, ← String.toList_inj, String.toList_ofList]

theorem normal_iff_isLower : k.Normal ↔ ∀ c ∈ k.text.toList, IsLower c :=
  normal_iff_lowercase.trans Text.lowercase_eq_self_iff

theorem normal_ofIdentifier (id : String) : (ofIdentifier id).Normal := ofIdentifier_text id

theorem fromIdentifier_iff : k.FromIdentifier ↔ k.Normal := by
  constructor
  · rintro (⟨id⟩ | id | id)
    · exact normal_ofIdentifier _
    · exact normal_ofIdentifier _
    · exact normal_ofIdentifier _
  · intro h
    rw [← h]
    exact .string k.text

/-- The key of an identifier is the key of its own text, and the one that the text of the
identifier has, be it a string or a slice. No character of it has another lower case form. -/
theorem of_text_of {α : Type} [ToString α] (id : α) :
    of (of id).text = of id ∧ (toString id : RowKey) = of id ∧
      ((toString id).toSlice : RowKey) = of id ∧ ∀ c ∈ (of id).text.toList, IsLower c := by
  refine ⟨normal_ofIdentifier (toString id), rfl, ?_, ?_⟩
  · exact congrArg ofIdentifier String.copy_toSlice
  · exact normal_iff_isLower.1 (normal_ofIdentifier (toString id))

-- A capital sigma at the end of a word and one within, and a letter that becomes two characters.
example : of "ΟΔΟΣ ΣΑΣ, İ" = ⟨"οδος σας, i\u0307"⟩ := by decide +kernel

end Identifiers

section SameLetters

theorem of_eq_of_iff : of s = of s' ↔ Text.lowercase s.toList = Text.lowercase s'.toList := by
  rw [of, of, ofIdentifier, ofIdentifier, RowKey.mk.injEq, String.ofList_inj]
  rfl

/-- Texts have one key in letters of either case, also where a sigma is next to them. -/
theorem of_eq_of_sameLetter (h : List.Forall₂ SameLetter s.toList s'.toList) : of s = of s' :=
  of_eq_of_iff.2 (Text.lowercase_eq_of_sameLetter h)

theorem of_eq_of_sameLetter_sigma :
    List.Forall₂ SameLetter "aΣ ΣB".toList "AΣ Σb".toList ∧ of "aΣ ΣB" = of "AΣ Σb" ∧
      of "AΣ Σb" = ⟨"aς σb"⟩ := by
  have h : List.Forall₂ SameLetter "aΣ ΣB".toList "AΣ Σb".toList := by decide +kernel
  exact ⟨h, of_eq_of_sameLetter h, by decide +kernel⟩

end SameLetters

section Reading

theorem ofJsonText_eq_ok_iff : ofJsonText text = .ok k ↔ StringText k.text text.toList := by
  have h : ofJsonText text = (Decoder.run decodeString text).map RowKey.mk := by
    rw [ofJsonText, Decoder.run, Decoder.run, decode]
    rcases decodeString text.toList with e | ⟨t, rest⟩
    · rfl
    · simp only [Except.map, Outcome.ok_bind, finish]
      split <;> rfl
  rw [h, Outcome.map_eq_ok_iff, ← run_decodeString_eq_ok_iff]
  constructor
  · rintro ⟨t, ht, rfl⟩
    exact ht
  · intro ht
    exact ⟨k.text, ht, rfl⟩

theorem ofJsonText_compact (k : RowKey) : ofJsonText k.toJson.compact = .ok k :=
  ofJsonText_eq_ok_iff.2 (stringText_compact k.text)

/-- The keys of identifiers are the normal ones, whose characters have no other lower case form,
and all keys are read from JSON: a key is what is read just if the text is a string with its text.
-/
theorem fromIdentifier_iff_normal_and_ofJsonText (k : RowKey) :
    (k.FromIdentifier ↔ k.Normal) ∧ (k.Normal ↔ ∀ c ∈ k.text.toList, IsLower c) ∧
      (∀ text, ofJsonText text = .ok k ↔ StringText k.text text.toList) ∧
      ∃ text, ofJsonText text = .ok k :=
  ⟨fromIdentifier_iff, normal_iff_isLower, fun _ => ofJsonText_eq_ok_iff, _, ofJsonText_compact k⟩

/-- A key with a capital letter is read, though its text has another key. -/
theorem ofJsonText_capital :
    ofJsonText "\"Row-1\"" = .ok ⟨"Row-1"⟩ ∧ of "Row-1" = ⟨"row-1"⟩ ∧ ¬ Normal ⟨"Row-1"⟩ ∧
      ¬ ∀ k : RowKey, (k.FromIdentifier ∨ ∃ text, ofJsonText text = .ok k) → k.Normal := by
  have hr : ofJsonText "\"Row-1\"" = .ok ⟨"Row-1"⟩ := ofJsonText_compact ⟨"Row-1"⟩
  have hn : ¬ Normal ⟨"Row-1"⟩ := by decide +kernel
  exact ⟨hr, by decide +kernel, hn, fun h => hn (h _ (.inr ⟨_, hr⟩))⟩

end Reading

end ColumnFilter.RowKey
