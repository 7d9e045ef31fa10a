import ColumnFilter.Proofs.Condition.Decoding
import ColumnFilter.Proofs.Json.Grammar

/-! # Conditions by the values of their fields

A condition is read from the values of its fields alone. In an object they may stand
in any order among members of other names, and in an array they stand in the order of
the fields. If a field without a default is missing, the first such field is reported.
-/

namespace ColumnFilter

open Json

variable {first : Bool} {s rest : List Char} {name : String} {field : Field}

namespace Json

/-- The text is a string with its quotes, in any spelling. -/
inductive SpellsString (text : String) : List Char → Prop
  | intro {spelled : List Char} : Spells spelled text.toList →
      SpellsString text ('"' :: (spelled ++ ['"']))

inductive ArrayText (items : List (List Char)) : List Char → Prop
  | intro {b b' s : List Char} : Blanks b → Blanks b' → Separated true items s →
      ArrayText items (b ++ '[' :: (s ++ ']' :: b'))

inductive ObjectText (members : List (String × Member)) : List Char → Prop
  | intro {b b' s : List Char} : Blanks b → Blanks b' →
      (∀ m ∈ members, SpellsString m.1 m.2.name) →
      Separated true (members.map fun m => m.2.text) s →
      ObjectText members (b ++ '\x7b' :: (s ++ '\x7d' :: b'))

theorem SpellsString.decodes {text : String} (h : SpellsString text s) :
    Decodes decodeString s text := by
  obtain ⟨hs⟩ := h
  intro b rest hb
  exact decodeString_eq_ok_iff.2 ⟨b, _, hb, hs, by simp⟩

theorem SpellsString.readString {text : String} {spelled : List Char}
    (h : Spells spelled text.toList) (rest : List Char) :
    Json.readString (spelled ++ '"' :: rest) = .ok (text, rest) :=
  readString_eq_ok_iff.2 ⟨spelled, h, rfl⟩

end Json

namespace Field

theorem ofName?_eq_some_iff : ofName? name = some field ↔ field.name = name := by
  constructor
  · intro h
    simpa using List.find?_some h
  · rintro rfl
    exact Condition.ofName?_name field

theorem ofName?_eq_none_iff : ofName? name = none ↔ ∀ field : Field, field.name ≠ name := by
  simp [Option.eq_none_iff_forall_ne_some, ofName?_eq_some_iff]

end Field

namespace Condition

variable {d : Draft} {seen : List Field} {op : Comparator} {items : List (List Char)}
  {members : List (String × Member)}

/-- The text is a symbol as a string, or as the name of the only member of an object, the value of
which is null. -/
inductive SpellsSymbol (op : Comparator) : List Char → Prop
  | string {s : List Char} : SpellsString op.symbol s → SpellsSymbol op s
  | object {m : Member} {b b' : List Char} : Blanks b → Blanks b' →
      SpellsString op.symbol m.name → m.value = ['n', 'u', 'l', 'l'] →
      SpellsSymbol op ('\x7b' :: (b ++ (m.text ++ (b' ++ ['\x7d']))))

theorem decodes_symbol (h : SpellsString op.symbol s) : Decodes decodeSymbol s op := by
  obtain ⟨hs⟩ := h
  intro b rest hb
  rw [List.cons_append, decodeSymbol, skipBlanks_append_cons hb rfl]
  simp only [List.append_assoc, List.singleton_append, SpellsString.readString hs, malformed,
    Except.mapError, bind, Except.bind, comparatorOf_symbol]
  rfl

theorem decodes_null : Decodes decodeNull ['n', 'u', 'l', 'l'] () := by
  intro b rest hb
  rw [List.cons_append, decodeNull, skipBlanks_append_cons hb rfl]
  simp only [expectIdent_append]
  rfl

theorem decodeComparator_brace {b t u v : List Char} (hb : Blanks b)
    (hs : decodeSymbol s = .ok (op, t)) (hc : readColon t = .ok u)
    (hn : decodeNull u = .ok ((), v)) (hv : skipBlanks v = '\x7d' :: rest) :
    decodeComparator (b ++ '\x7b' :: s) = .ok (op, rest) := by
  rw [decodeComparator, skipBlanks_append_cons hb rfl]
  simp only [hs, hc, hn, hv, malformed, Except.mapError, bind, Except.bind]
  rfl

theorem decodes_flag (v : Bool) : Decodes decodeBoolean (toString v).toList v := by
  have h := decodes_boolean v
  rwa [compactChars, compact] at h

theorem SpellsSymbol.decodes (h : SpellsSymbol op s) : Decodes decodeComparator s op := by
  intro b rest hb
  cases h with
  | string h =>
    have hd := decodes_symbol h [] rest blanks_nil
    obtain ⟨hs⟩ := h
    rw [List.cons_append, decodeComparator, skipBlanks_append_cons hb rfl]
    exact hd
  | @object m c c' hc hc' hn hv =>
    have hsymbol := decodes_symbol hn c (m.before ++ ':' :: (m.behind ++ (m.value ++
      (c' ++ '\x7d' :: rest)))) hc
    have hnull := decodes_null m.behind (c' ++ '\x7d' :: rest) m.blanks_behind
    rw [← hv] at hnull
    simpa [Member.text] using decodeComparator_brace hb hsymbol
      (readColon_blanks m.blanks_before _) hnull (skipBlanks_append_cons hc' rfl rest)

namespace Draft

inductive Holds (d : Draft) : Field → List Char → Prop
  | family {v : String} {s : List Char} :
      d.family = some v → SpellsString v s → Holds d .family s
  | qualifier {v : String} {s : List Char} :
      d.qualifier = some v → SpellsString v s → Holds d .qualifier s
  | comparator {op : Comparator} {s : List Char} :
      d.comparator = some op → SpellsSymbol op s → Holds d .comparator s
  | value {v : String} {s : List Char} :
      d.value = some v → SpellsString v s → Holds d .value s
  | filterIfMissing {v : Bool} :
      d.filterIfMissing = some v → Holds d .filterIfMissing (toString v).toList
  | latestVersionOnly {v : Bool} :
      d.latestVersionOnly = some v → Holds d .latestVersionOnly (toString v).toList

/-- The value of a member is the one that the draft has of the field of that name, and any value if
no field has the name. -/
inductive Fits (d : Draft) : String × Member → Prop
  | known {field : Field} {m : Member} : d.Holds field m.value → Fits d (field.name, m)
  | unknown {name : String} {m : Member} : (∀ field : Field, field.name ≠ name) →
      IsValue m.value → Fits d (name, m)

/-- The members have distinct names, and are the values of the draft among any others. -/
structure Given (d : Draft) (members : List (String × Member)) : Prop where
  nodup : (members.map Prod.fst).Nodup
  fits : ∀ m ∈ members, d.Fits m
  complete : ∀ field, d.has field = true → field.name ∈ members.map Prod.fst

/-- The items are the values of the first four fields or more, and the draft has no others. -/
structure Listed (d : Draft) (items : List (List Char)) : Prop where
  least : 4 ≤ items.length
  holds : List.Forall₂ d.Holds (Field.all.take items.length) items
  complete : ∀ field, d.has field = true → field ∈ Field.all.take items.length

def mandatory : List Field := [.family, .qualifier, .comparator, .value]

/-- What the values come to: a condition if none is missing that has no default, and else an error
that names the first one that is. -/
inductive ComesTo (d : Draft) : Except DecodeError Condition → Prop
  | condition {family qualifier value : String} {comparator : Comparator} :
      d.family = some family → d.qualifier = some qualifier → d.comparator = some comparator →
      d.value = some value → ComesTo d (.ok { family, qualifier, comparator, value
                                              filterIfMissing := d.filterIfMissing.getD false
                                              latestVersionOnly := d.latestVersionOnly.getD true })
  | missing {field : Field} : mandatory.find? (fun field => !d.has field) = some field →
      ComesTo d (.error (.missingField field.name))

theorem finish_comesTo (d : Draft) : d.ComesTo d.finish := by
  obtain ⟨family, qualifier, comparator, value, b, b'⟩ := d
  cases family with
  | none => exact .missing rfl
  | some family =>
  cases qualifier with
  | none => exact .missing rfl
  | some qualifier =>
  cases comparator with
  | none => exact .missing rfl
  | some comparator =>
  cases value with
  | none => exact .missing rfl
  | some value => exact .condition rfl rfl rfl rfl

theorem ComesTo.unique {outcome outcome' : Except DecodeError Condition} (h : d.ComesTo outcome)
    (h' : d.ComesTo outcome') : outcome = outcome' := by
  cases h with
  | condition hf hq hc hv =>
    cases h' with
    | condition hf' hq' hc' hv' =>
      obtain rfl := Option.some.inj (hf.symm.trans hf')
      obtain rfl := Option.some.inj (hq.symm.trans hq')
      obtain rfl := Option.some.inj (hc.symm.trans hc')
      obtain rfl := Option.some.inj (hv.symm.trans hv')
      rfl
    | missing hm => simp [mandatory, has, hf, hq, hc, hv] at hm
  | missing hm =>
    cases h' with
    | condition hf hq hc hv => simp [mandatory, has, hf, hq, hc, hv] at hm
    | missing hm' =>
      obtain rfl := Option.some.inj (hm.symm.trans hm')
      rfl

theorem finish_eq_iff_comesTo {outcome : Except DecodeError Condition} :
    d.finish = outcome ↔ d.ComesTo outcome :=
  ⟨fun h => h ▸ finish_comesTo d, fun h => (finish_comesTo d).unique h⟩

def only (d : Draft) (seen : List Field) : Draft where
  family := if .family ∈ seen then d.family else none
  qualifier := if .qualifier ∈ seen then d.qualifier else none
  comparator := if .comparator ∈ seen then d.comparator else none
  value := if .value ∈ seen then d.value else none
  filterIfMissing := if .filterIfMissing ∈ seen then d.filterIfMissing else none
  latestVersionOnly := if .latestVersionOnly ∈ seen then d.latestVersionOnly else none

theorem only_nil (d : Draft) : d.only [] = {} := rfl

theorem has_only_of_notMem (h : field ∉ seen) : (d.only seen).has field = false := by
  cases field <;> simp [has, only, h]

theorem only_eq_self (h : ∀ field, d.has field = true → field ∈ seen) : d.only seen = d := by
  have hite {α : Type} {p : Prop} [Decidable p] {o : Option α} (h : o.isSome = true → p) :
      (if p then o else none) = o := by
    split
    · rfl
    · next hp => exact (Option.not_isSome_iff_eq_none.1 fun ho => hp (h ho)).symm
  simp only [only, hite (h .family), hite (h .qualifier), hite (h .comparator), hite (h .value),
    hite (h .filterIfMissing), hite (h .latestVersionOnly)]

theorem only_congr {seen' : List Field} (h : ∀ field, field ∈ seen ↔ field ∈ seen') :
    d.only seen = d.only seen' := by
  simp only [only, h]

theorem Holds.beginsItem (h : d.Holds field s) : BeginsItem s := by
  cases h with
  | family _ hs | qualifier _ hs | value _ hs =>
    cases hs
    exact ⟨_, _, rfl, rfl, by decide⟩
  | comparator _ hs =>
    rcases hs with ⟨⟨_⟩⟩ | _
    · exact ⟨_, _, rfl, rfl, by decide⟩
    · exact ⟨_, _, rfl, rfl, by decide⟩
  | @filterIfMissing v _ | @latestVersionOnly v _ =>
    cases v <;> exact ⟨_, _, rfl, rfl, by decide⟩

theorem decodes_into {α : Type} {item : Decoder α} {v : α} {d' : Draft} (h : Decodes item s v)
    (f : α → Draft) (hf : f v = d') : Decodes (fun s => (item s).map fun (v, s) => (f v, s)) s d' :=
  hf ▸ h.map f

theorem Holds.decodes (h : d.Holds field s) (seen : List Field) :
    Decodes ((d.only seen).decode field) s (d.only (field :: seen)) := by
  cases h with
  | family hv hs =>
    exact decodes_into hs.decodes ({ d.only seen with family := some · }) (by simp [only, hv])
  | qualifier hv hs =>
    exact decodes_into hs.decodes ({ d.only seen with qualifier := some · }) (by simp [only, hv])
  | comparator hv hs =>
    exact decodes_into hs.decodes ({ d.only seen with comparator := some · }) (by simp [only, hv])
  | value hv hs =>
    exact decodes_into hs.decodes ({ d.only seen with value := some · }) (by simp [only, hv])
  | filterIfMissing hv =>
    exact decodes_into (decodes_flag _) ({ d.only seen with filterIfMissing := some · })
      (by simp [only, hv])
  | latestVersionOnly hv =>
    exact decodes_into (decodes_flag _) ({ d.only seen with latestVersionOnly := some · })
      (by simp [only, hv])

theorem Holds.has (h : d.Holds field s) : d.has field = true := by
  cases h with
  | family h _ | qualifier h _ | comparator h _ | value h _ | filterIfMissing h
    | latestVersionOnly h => simp [Draft.has, h]

theorem Listed.has (h : d.Listed items) (hf : field ∈ mandatory) : d.has field = true := by
  have hboth : List.Forall₂ (fun field s => d.has field = true ∧ d.Holds field s)
      (Field.all.take items.length) items := h.holds.imp fun _ _ hs => ⟨hs.has, hs⟩
  exact ((List.forall₂_and_left _ _).1 hboth).1 field
    (List.take_subset_take_left Field.all h.least hf)

theorem Listed.finish_eq_ok (h : d.Listed items) : ∃ c, d.finish = .ok c := by
  generalize ho : d.finish = outcome
  cases finish_eq_iff_comesTo.1 ho with
  | condition _ _ _ _ => exact ⟨_, rfl⟩
  | missing hm =>
    have hmissing := List.find?_some hm
    rw [h.has (List.mem_of_find?_eq_some hm)] at hmissing
    cases hmissing

end Draft

section Objects

def fieldsOf (members : List (String × Member)) : List Field :=
  members.filterMap fun m => Field.ofName? m.1

theorem mem_fieldsOf : field ∈ fieldsOf members ↔ field.name ∈ members.map Prod.fst := by
  simp only [fieldsOf, List.mem_filterMap, List.mem_map, Field.ofName?_eq_some_iff]
  exact exists_congr fun m => and_congr_right fun _ => eq_comm

theorem decodeMembers_other {name value after : List Char} {n : String} (rounds : ℕ)
    (hn : nextName first s = .ok (some name)) (hs : readString name = .ok (n, value))
    (hf : Field.ofName? n = none) (hc : readColon value = .ok rest)
    (hd : skip rest = .ok ((), after)) :
    decodeMembers (rounds + 1) first d s = decodeMembers rounds false d after := by
  simp [decodeMembers, hn, hs, hf, hc, hd, malformed, Except.mapError, bind, Except.bind]

/-- Members are decoded one after the other, each into its own field if there is one. -/
theorem decodeMembers_separated (hn : (members.map Prod.fst).Nodup) (hf : ∀ m ∈ members, d.Fits m)
    (hq : ∀ m ∈ members, SpellsString m.1 m.2.name)
    (hd : ∀ field ∈ seen, field.name ∉ members.map Prod.fst)
    (h : Separated first (members.map fun m => m.2.text) s) {rounds : ℕ}
    (hr : members.length < rounds) (rest : List Char) :
    decodeMembers rounds first (d.only seen) (s ++ '\x7d' :: rest) =
      .ok (d.only (fieldsOf members ++ seen), rest) := by
  -- The names are distinct, so no field among the members left has been met before.
  induction members generalizing first seen s rounds with
  | nil =>
    obtain ⟨hb⟩ := h
    obtain ⟨rounds, rfl⟩ := Nat.exists_eq_add_of_lt hr
    exact decodeMembers_brace _ (nextName_brace hb rest) (close_append hb rfl rest)
  | cons m members ih =>
    obtain ⟨rounds, rfl⟩ : ∃ n, rounds = n + 1 := ⟨rounds - 1, by omega⟩
    obtain ⟨hn, hns⟩ := List.nodup_cons.1 hn
    obtain ⟨hf, hfs⟩ := List.forall_mem_cons.1 hf
    obtain ⟨hm, hms⟩ := List.forall_mem_cons.1 hq
    rw [List.length_cons, Nat.add_lt_add_iff_right] at hr
    simp only [List.map_cons, List.mem_cons, not_or] at hd
    generalize hname : m.2.name = name at hm
    obtain ⟨hspelled⟩ := hm
    rw [List.map_cons] at h
    cases h with
    | @cons _ b b' _ s _ hb hb' hs =>
    have hnext := nextName_text first hb hb' hname s ('\x7d' :: rest)
    have hread := SpellsString.readString hspelled
    have hcolon := readColon_blanks m.2.blanks_before
    cases hf with
    | @known field m hvalue =>
      have hseen : ∀ other ∈ field :: seen, other.name ∉ members.map Prod.fst :=
        List.forall_mem_cons.2 ⟨hn, fun other ho => (hd other ho).2⟩
      have hnew : field ∉ seen := fun hm => (hd field hm).1 rfl
      have hfields : fieldsOf ((field.name, m) :: members) = field :: fieldsOf members :=
        List.filterMap_cons_some (ofName?_name field)
      rw [decodeMembers_field rounds hnext (hread _) (hcolon _) (Draft.has_only_of_notMem hnew)
        (hvalue.decodes seen m.behind _ m.blanks_behind), ih hns hfs hms hseen hs hr, hfields]
      congr 2
      exact Draft.only_congr fun other => by simp [or_left_comm]
    | @unknown n m hother hvalue =>
      have hnone : Field.ofName? n = none := Field.ofName?_eq_none_iff.2 hother
      have hfields : fieldsOf ((n, m) :: members) = fieldsOf members :=
        List.filterMap_cons_none hnone
      have hskip := hvalue.skip m.behind _ m.blanks_behind (hs.ends (.inr rfl) rest)
      rw [decodeMembers_other rounds hnext (hread _) hnone (hcolon _) hskip,
        ih hns hfs hms (fun other ho => (hd other ho).2) hs hr, hfields]

theorem decode_members (hg : d.Given members) (hq : ∀ m ∈ members, SpellsString m.1 m.2.name)
    (h : Separated true (members.map fun m => m.2.text) s) (rest : List Char) :
    decode ('\x7b' :: (s ++ '\x7d' :: rest)) = d.finish.map fun c => (c, rest) := by
  have hall : d.only (fieldsOf members ++ []) = d := Draft.only_eq_self fun field hf => by
    rw [List.append_nil, mem_fieldsOf]
    exact hg.complete field hf
  have hrounds := h.length_lt (List.forall_mem_map.2 fun m _ => m.2.length_text_pos)
    ('\x7d' :: rest)
  rw [List.length_map] at hrounds
  rw [decode_brace, ← Draft.only_nil d,
    decodeMembers_separated hg.nodup hg.fits hq (List.forall_mem_nil _) h hrounds rest, hall]
  cases hd : d.finish <;> simp only [bind, Except.bind, hd] <;> rfl

end Objects

section Arrays

variable {fields : List Field} {index : ℕ}

theorem decodeItems_item {d' : Draft} {item after : List Char}
    (hn : nextItem (index == 0) s = .ok (some item)) (hd : d.decode field item = .ok (d', after)) :
    decodeItems (field :: fields) index d s = decodeItems fields (index + 1) d' after := by
  simp [decodeItems, hn, hd, malformed, Except.mapError, bind, Except.bind]

/-- Items are decoded one after the other into the fields, the others of which have defaults. -/
theorem decodeItems_separated (hi : List.Forall₂ d.Holds (fields.take items.length) items)
    (hf : ∀ field ∈ fields.drop items.length, field.isRequired = false)
    (h : Separated (index == 0) items s) (rest : List Char) :
    ∃ b, Blanks b ∧ decodeItems fields index (d.only seen) (s ++ ']' :: rest) =
      .ok (d.only (fields.take items.length ++ seen), b ++ ']' :: rest) := by
  induction items generalizing fields index seen s with
  | nil =>
    obtain ⟨hb⟩ := h
    refine ⟨s, hb, ?_⟩
    cases fields with
    | nil => rfl
    | cons field fields =>
      have hdefault : field.isRequired = false := hf field List.mem_cons_self
      simp [decodeItems, nextItem_bracket hb, hdefault, malformed, Except.mapError, bind,
        Except.bind, pure, Except.pure]
  | cons item items ih =>
    cases fields with
    | nil => cases hi
    | cons field fields =>
      obtain ⟨hitem, hitems⟩ := List.forall₂_cons.1 hi
      cases h with
      | @cons _ b b' _ s _ hb hb' hs =>
      have hnext := nextItem_text (index == 0) hb hb' hitem.beginsItem s (']' :: rest)
      have hdecode := hitem.decodes seen [] (s ++ ']' :: rest) blanks_nil
      obtain ⟨b, hb, h⟩ : ∃ b, Blanks b ∧
          decodeItems fields (index + 1) (d.only (field :: seen)) (s ++ ']' :: rest) =
            .ok (d.only (fields.take items.length ++ field :: seen), b ++ ']' :: rest) :=
        ih hitems hf hs
      refine ⟨b, hb, ?_⟩
      rw [decodeItems_item hnext hdecode, h]
      congr 2
      exact Draft.only_congr fun other => by simp [or_left_comm]

theorem decode_bracket (s : List Char) : decode ('[' :: s) = do
    let (d, s) ← decodeItems Field.all 0 {} s
    let c ← d.finish
    return (c, ← decodeArrayEnd s) := by
  rw [decode, skipBlanks_cons rfl]
  rfl

theorem decode_items (hl : d.Listed items) (h : Separated true items s) (rest : List Char) :
    decode ('[' :: (s ++ ']' :: rest)) = d.finish.map fun c => (c, rest) := by
  have hall : d.only (Field.all.take items.length ++ []) = d :=
    Draft.only_eq_self fun field hf => by
      rw [List.append_nil]
      exact hl.complete field hf
  have hdefault : ∀ field ∈ Field.all.drop items.length, field.isRequired = false := by
    have hlast : ∀ field ∈ Field.all.drop 4, field.isRequired = false := by decide
    exact fun field hf => hlast field (List.drop_subset_drop_left Field.all hl.least hf)
  have h' : Separated (0 == 0) items s := h
  obtain ⟨b, hb, hi⟩ : ∃ b, Blanks b ∧
      decodeItems Field.all 0 (d.only []) (s ++ ']' :: rest) =
        .ok (d.only (Field.all.take items.length ++ []), b ++ ']' :: rest) :=
    decodeItems_separated hl.holds hdefault h' rest
  have hend : decodeArrayEnd (b ++ ']' :: rest) = .ok rest := by
    rw [decodeArrayEnd, skipBlanks_append_cons hb rfl]
    rfl
  rw [decode_bracket, ← Draft.only_nil d, hi, hall]
  cases hd : d.finish <;> simp only [bind, Except.bind, hd, hend] <;> rfl

end Arrays

theorem decode_append {b : List Char} (hb : Blanks b) (s : List Char) :
    decode (b ++ s) = decode s := by
  unfold decode
  simp only [skipBlanks_append hb]

theorem ofJsonText_of_decode {text : String} {b b' : List Char} (hb : Blanks b) (hb' : Blanks b')
    (ht : text.toList = b ++ s) (hs : decode s = d.finish.map fun c => (c, b')) :
    ofJsonText text = d.finish := by
  rw [ofJsonText, Decoder.run, ht, decode_append hb, hs]
  cases d.finish <;>
    simp [malformed, Json.finish, skipBlanks_of_blanks hb', bind, Except.bind, Except.map,
      Except.mapError]

/-- An object comes to what the values of its fields come to, whatever the order of its members and
whatever other members there are. An array of the same values comes to the same condition. -/
theorem ofJsonText_eq_iff_comesTo {text : String} (hg : d.Given members)
    (ht : ObjectText members text.toList) :
    (∀ outcome, ofJsonText text = outcome ↔ d.ComesTo outcome) ∧
      ∀ (items : List (List Char)) (array : String), d.Listed items →
        ArrayText items array.toList →
          ∃ c, ofJsonText array = .ok c ∧ ofJsonText text = .ok c := by
  have htext : ofJsonText text = d.finish := by
    generalize hs : text.toList = s at ht
    obtain ⟨hb, hb', hq, hm⟩ := ht
    exact ofJsonText_of_decode hb hb' hs (decode_members hg hq hm _)
  refine ⟨fun outcome => by rw [htext, Draft.finish_eq_iff_comesTo], fun items array hl ha => ?_⟩
  have harray : ofJsonText array = d.finish := by
    generalize hs : array.toList = s at ha
    obtain ⟨hb, hb', hi⟩ := ha
    exact ofJsonText_of_decode hb hb' hs (decode_items hl hi _)
  obtain ⟨c, hc⟩ := hl.finish_eq_ok
  exact ⟨c, harray.trans hc, htext.trans hc⟩

section Shuffled

def joined : Bool → List (List Char) → List Char
  | _, [] => []
  | first, item :: items => separator first ++ (item ++ joined false items)

theorem separated_joined (first : Bool) (items : List (List Char)) :
    Separated first items (joined first items) := by
  induction items generalizing first with
  | nil => exact .nil blanks_nil
  | cons item items ih => exact .cons blanks_nil blanks_nil (ih false)

theorem spellsString_escaped (text : String) :
    SpellsString text ('"' :: (text.toList.flatMap escapeChar ++ ['"'])) :=
  ⟨spellsText_iff.1 (spellsText_escaped text)⟩

theorem blanks_space : Blanks [' '] := List.forall_mem_singleton.2 rfl

def spacedMember (name value : String) : String × Member :=
  (name, ⟨'"' :: (name.toList.flatMap escapeChar ++ ['"']), value.toList, [], [' '], blanks_nil,
    blanks_space⟩)

/-- Five fields out of their order, and a member that is none. -/
def shuffled : List (String × Member) :=
  [("note", "[\x7b\x7d]"), ("value", "\"\\u0031\""), ("comparator", "\x7b\"=\": null\x7d"),
    ("column_qualifier", "\"n\""), ("filter_if_missing", "true"),
    ("column_family", "\"f\"")].map fun (name, value) => spacedMember name value

def shuffledDraft : Draft :=
  { family := some "f", qualifier := some "n", comparator := some .equal, value := some "1"
    filterIfMissing := some true }

theorem given_shuffled : shuffledDraft.Given shuffled where
  nodup := by decide
  fits := by
    have hobject : IsValue ['\x7b', '\x7d'] :=
      .object (List.forall_mem_nil _) (List.forall_mem_nil _) (.nil blanks_nil)
    have hnote : IsValue ['[', '\x7b', '\x7d', ']'] :=
      .array (List.forall_mem_singleton.2 hobject) (separated_joined true _)
    have hother : ∀ field : Field, field.name ≠ "note" := by
      intro field
      cases field <;> decide
    have hunit : SpellsUnit ['0', '0', '3', '1'] (((0 * 16 + 0) * 16 + 3) * 16 + 1) :=
      .intro rfl rfl rfl rfl
    have hone : Json.Spells "\\u0031".toList "1".toList := .cons (.unit hunit rfl rfl) .nil
    have hequal : SpellsSymbol .equal "\x7b\"=\": null\x7d".toList := .object blanks_nil
      blanks_nil (spellsString_escaped "=") (m := (spacedMember "=" "null").2) rfl
    have hflag : shuffledDraft.Fits (spacedMember "filter_if_missing" "true") :=
      @Draft.Fits.known _ .filterIfMissing _ (.filterIfMissing (v := true) rfl)
    simp only [shuffled, List.forall_mem_map, List.forall_mem_cons]
    exact ⟨.unknown hother hnote, .known (.value rfl ⟨hone⟩), .known (.comparator rfl hequal),
      .known (.qualifier rfl (spellsString_escaped "n")), hflag,
      .known (.family rfl (spellsString_escaped "f")), List.forall_mem_nil _⟩
  complete := by
    intro field
    cases field <;> decide

theorem listed_shuffledDraft : shuffledDraft.Listed
    (["\"f\"", "\"n\"", "\"=\"", "\"1\"", "true"].map String.toList) where
  least := by decide
  holds := .cons (.family rfl (spellsString_escaped "f")) <|
    .cons (.qualifier rfl (spellsString_escaped "n")) <|
    .cons (.comparator rfl (.string (spellsString_escaped "="))) <|
    .cons (.value rfl (spellsString_escaped "1")) <|
    .cons (.filterIfMissing (v := true) rfl) .nil
  complete := by
    intro field
    cases field <;> decide

def shuffledText : String :=
  "\x7b\"note\": [\x7b\x7d],\"value\": \"\\u0031\",\"comparator\": \x7b\"=\": null\x7d," ++
    "\"column_qualifier\": \"n\",\"filter_if_missing\": true,\"column_family\": \"f\"\x7d"

theorem ofJsonText_eq_iff_comesTo_shuffled :
    ofJsonText shuffledText = .ok ⟨"f", "n", .equal, "1", true, true⟩ ∧
      ofJsonText "[\"f\",\"n\",\"=\",\"1\",true]" =
        .ok ⟨"f", "n", .equal, "1", true, true⟩ := by
  have hnames : ∀ m ∈ shuffled, SpellsString m.1 m.2.name :=
    List.forall_mem_map.2 fun m _ => spellsString_escaped m.1
  have hs : shuffledText.toList =
      '\x7b' :: (joined true (shuffled.map fun m => m.2.text) ++ ['\x7d']) := by
    decide +kernel
  have hobject : ObjectText shuffled shuffledText.toList :=
    hs ▸ .intro blanks_nil blanks_nil hnames (separated_joined true _)
  have harray : ArrayText (["\"f\"", "\"n\"", "\"=\"", "\"1\"", "true"].map String.toList)
      "[\"f\",\"n\",\"=\",\"1\",true]".toList :=
    .intro blanks_nil blanks_nil (separated_joined true _)
  obtain ⟨htext, hitems⟩ := ofJsonText_eq_iff_comesTo given_shuffled hobject
  have hc : ofJsonText shuffledText = .ok ⟨"f", "n", .equal, "1", true, true⟩ :=
    (htext _).2 (.condition rfl rfl rfl rfl)
  obtain ⟨c, ha, ht⟩ := hitems _ _ listed_shuffledDraft harray
  obtain rfl := Except.ok.inj (ht.symm.trans hc)
  exact ⟨hc, ha⟩

end Shuffled

end Condition

end ColumnFilter
