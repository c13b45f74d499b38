import Mathlib.Data.List.Forall2
import Rowgate.Proofs.Bytes
import Rowgate.Proofs.Slots
import Rowgate.Proofs.Tables
/-
What becomes of the fields of a record.

The entries of a table are taken in the order of their keys, which is that of the bytes of the keys.
So of the entries that are refused the one with the least key decides the error. Where none is, the
first field in the order of declaration that neither has an entry nor can do without one is missing;
and where none is missing, the record holds what the entries gave and the defaults of the other
fields. `Outcome` says so without running anything. Every table of entries has one outcome, and it is
what reading the record gives (`outcome_iff`).
-/
set_option autoImplicit false

namespace Rowgate.Input

/-! ## Outcomes -/

/-- The entries whose keys come before a key in the order of their bytes. -/
def entriesBefore (key : String) (input : Fields) : Fields :=
  input.filter fun entry => Utf8.encode entry.1 < Utf8.encode key

/-- The entry of the key is refused with the error. -/
def FaultAt (fields : List (Label × Shape)) (strict : Bool) (input : Fields) (key : String)
    (e : DecodeError) : Prop :=
  ∃ value, Keyed.get? key input = some value ∧
    Fault fields strict (entriesBefore key input) key value e

/-- The field has no entry and cannot do without one. -/
def Missing (fields : List (Label × Shape)) (input : Fields) (field : Label × Shape) : Prop :=
  ¬ Taken fields input field ∧ field.1.fallback = none ∧ ∀ inner, field.2 ≠ .option inner

/-- What a field of a complete record holds under its key. -/
inductive Holds (fields : List (Label × Shape)) (input : Fields) :
    Label × Shape → String × Datum → Prop where
  /-- the value of the entry that names the field, and of nothing else -/
  | given {field : Label × Shape} {key : String} {value : Field} {datum : Datum}
    (hvalue : Keyed.get? key input = some value) (hkey : fieldOf? fields key = some field)
    (hdatum : field.2.decode (.ofField value) = .ok datum) :
    Holds fields input field (field.1.key, datum)
  /-- the default of a field without an entry -/
  | fallback {field : Label × Shape} {datum : Datum} (htaken : ¬ Taken fields input field)
    (hfallback : field.1.fallback = some datum) : Holds fields input field (field.1.key, datum)
  /-- nothing, for an optional field without an entry and without a default -/
  | absent {label : Label} {inner : Shape} (htaken : ¬ Taken fields input (label, .option inner))
    (hfallback : label.fallback = none) :
    Holds fields input (label, .option inner) (label.key, .none)

/-- What becomes of the fields of a record. -/
inductive Outcome (fields : List (Label × Shape)) (strict : Bool) (input : Fields) :
    Except DecodeError Slots → Prop where
  /-- an entry is refused, and none with a lesser key is -/
  | fault {key : String} {e : DecodeError} (hfault : FaultAt fields strict input key e)
    (hleast : ∀ lesser e', Utf8.encode lesser < Utf8.encode key →
      ¬ FaultAt fields strict input lesser e') :
    Outcome fields strict input (.error e)
  /-- no entry is refused, and a field is missing, but none declared before it -/
  | missing {earlier later : List (Label × Shape)} {field : Label × Shape}
    (hnone : ∀ key e, ¬ FaultAt fields strict input key e)
    (hfields : fields = earlier ++ field :: later)
    (hearlier : ∀ other ∈ earlier, ¬ Missing fields input other)
    (hmissing : Missing fields input field) :
    Outcome fields strict input (.error (.missingField field.1.key))
  /-- no entry is refused and no field is missing -/
  | complete {held : Slots} (hnone : ∀ key e, ¬ FaultAt fields strict input key e)
    (hmissing : ∀ field ∈ fields, ¬ Missing fields input field)
    (hheld : List.Forall₂ (Holds fields input) fields held) :
    Outcome fields strict input (.ok held)

variable {fields : List (Label × Shape)} {strict : Bool}

/-! ## Fields without an entry -/

theorem whenAbsent_eq (shape : Shape) :
    (∃ inner, shape = .option inner ∧ shape.whenAbsent = some .none) ∨
      (∀ inner, shape ≠ .option inner) ∧ shape.whenAbsent = none := by
  cases shape with
  | option inner => exact .inl ⟨inner, rfl, rfl⟩
  | _ => exact .inr ⟨fun _ h => by contradiction, rfl⟩

/-- A field holds what its slot or its default says, unless it is missing. -/
theorem Filled.held {input : Fields} (hinput : Keyed.Ascending input) {slots : Slots}
    (hslots : Filled fields input slots) {field : Label × Shape} (hfield : field ∈ fields) :
    (((slots.lookup field.1.key).or field.1.fallback).or field.2.whenAbsent = none ∧
      Missing fields input field) ∨
    ∃ datum, ((slots.lookup field.1.key).or field.1.fallback).or field.2.whenAbsent = some datum ∧
      Holds fields input field (field.1.key, datum) ∧ ¬ Missing fields input field := by
  obtain ⟨label, shape⟩ := field
  rcases hslots (label, shape) hfield with
    ⟨hempty, hnot⟩ | ⟨key, value, datum, hlookup, hmem, hkey, hdatum⟩
  · simp only [hempty, Option.none_or]
    cases hfallback : label.fallback with
    | some datum =>
      refine .inr ⟨datum, rfl, .fallback hnot hfallback, fun hmissing => ?_⟩
      rw [hmissing.2.1] at hfallback
      contradiction
    | none =>
      rw [Option.none_or]
      rcases whenAbsent_eq shape with ⟨inner, rfl, habsent⟩ | ⟨hshape, habsent⟩
      · exact .inr ⟨.none, habsent, .absent hnot hfallback, fun hmissing => hmissing.2.2 inner rfl⟩
      · exact .inl ⟨habsent, hnot, hfallback, hshape⟩
  · simp only [hlookup, Option.some_or]
    refine .inr ⟨datum, rfl, .given (hinput.get?_eq_some_iff.mpr hmem) hkey hdatum, ?_⟩
    exact fun hmissing => hmissing.1 ⟨_, hmem, hkey⟩

/-- **The first missing field decides**, and where none is missing, every field holds something. -/
theorem completeSlots_run {input : Fields} (hinput : Keyed.Ascending input) {slots : Slots}
    (hslots : Filled fields input slots) (later : List (Label × Shape))
    (hlater : ∀ field ∈ later, field ∈ fields) :
    (∃ front field rest, later = front ++ field :: rest ∧
      (∀ other ∈ front, ¬ Missing fields input other) ∧ Missing fields input field ∧
      completeSlots slots later = .error (.missingField field.1.key)) ∨
    ((∀ field ∈ later, ¬ Missing fields input field) ∧ ∃ held,
      List.Forall₂ (Holds fields input) later held ∧ completeSlots slots later = .ok held) := by
  induction later with
  | nil => exact .inr ⟨by simp, [], .nil, rfl⟩
  | cons field later ih =>
    obtain ⟨hfield, hlater⟩ := List.forall_mem_cons.mp hlater
    rcases hslots.held hinput hfield with ⟨hslot, hmissing⟩ | ⟨datum, hslot, hholds, hnot⟩
    · refine .inl ⟨[], field, later, rfl, by simp, hmissing, ?_⟩
      rw [completeSlots, hslot]
    · rcases ih hlater with ⟨front, other, rest, hsplit, hfront, hmissing, herror⟩ |
        ⟨hnone, held, hheld, hok⟩
      · refine .inl ⟨field :: front, other, rest, ?_, ?_, hmissing, ?_⟩
        · rw [hsplit]
          rfl
        · exact List.forall_mem_cons.mpr ⟨hnot, hfront⟩
        · rw [completeSlots, hslot, herror]
          rfl
      · refine .inr ⟨List.forall_mem_cons.mpr ⟨hnot, hnone⟩, _, .cons hholds hheld, ?_⟩
        rw [completeSlots, hslot, hok]
        rfl

/-! ## The outcome -/

/-- The entries in front of the entry of a key are those of the lesser keys. -/
theorem entriesBefore_of_split {input front rest : Fields} {key : String} {value : Field}
    (hinput : Keyed.Ascending input) (hsplit : input = front ++ (key, value) :: rest) :
    entriesBefore key input = front := by
  subst hsplit
  obtain ⟨-, hbehind, hfront⟩ := List.pairwise_append.mp hinput
  have hkeep : front.filter (fun entry => Utf8.encode entry.1 < Utf8.encode key) = front := by
    refine List.filter_eq_self.mpr fun entry hentry => ?_
    have hlt : entry.1 < key := hfront entry hentry (key, value) List.mem_cons_self
    exact decide_eq_true ((Utf8.encode_lt_iff _ _).mpr hlt)
  have hdrop : ((key, value) :: rest).filter
      (fun entry => Utf8.encode entry.1 < Utf8.encode key) = [] := by
    refine List.filter_eq_nil_iff.mpr fun entry hentry hless => ?_
    have hlt : entry.1 < key := (Utf8.encode_lt_iff _ _).mp (of_decide_eq_true hless)
    rcases List.mem_cons.mp hentry with rfl | hrest
    · exact String.lt_irrefl _ hlt
    · exact String.lt_asymm hlt ((List.pairwise_cons.mp hbehind).1 entry hrest)
  rw [entriesBefore, List.filter_append, hkeep, hdrop, List.append_nil]

/-- A refused entry is refused behind the entries in front of it. -/
theorem faultAt_iff {input : Fields} (hinput : Keyed.Ascending input) {key : String}
    {e : DecodeError} :
    FaultAt fields strict input key e ↔ ∃ front value rest,
      input = front ++ (key, value) :: rest ∧ Fault fields strict front key value e := by
  constructor
  · rintro ⟨value, hvalue, hfault⟩
    obtain ⟨front, rest, hsplit⟩ := List.append_of_mem (hinput.get?_eq_some_iff.mp hvalue)
    rw [entriesBefore_of_split hinput hsplit] at hfault
    exact ⟨front, value, rest, hsplit, hfault⟩
  · rintro ⟨front, value, rest, hsplit, hfault⟩
    refine ⟨value, hinput.get?_eq_some_iff.mpr ?_, ?_⟩
    · rw [hsplit]
      exact List.mem_append_right _ List.mem_cons_self
    · rwa [entriesBefore_of_split hinput hsplit]

/-- **What becomes of the fields of a record**, from entries with ascending keys. -/
theorem outcome_of_ascending (hkeys : (fields.map (·.1.key)).Nodup) (strict : Bool)
    {input : Fields} (hinput : Keyed.Ascending input) :
    Outcome fields strict input
      ((fillSlots (takeField fields) (strayField strict fields) [] input).bind
        fun slots => completeSlots slots fields) := by
  rcases fillSlots_run hkeys input (filled_nil fields) with
    ⟨front, key, value, rest, e, hsplit, hpassed, hfault, herror⟩ | ⟨hpassed, slots, hslots, hok⟩
  · rw [herror]
    rw [List.nil_append] at hfault
    refine .fault ((faultAt_iff hinput).mpr ⟨front, value, rest, hsplit, hfault⟩) ?_
    -- a lesser key stands in front, where every entry was passed
    intro lesser e' hless hfault'
    obtain ⟨front', value', rest', hsplit', hfault'⟩ := (faultAt_iff hinput).mp hfault'
    have hmem : (lesser, value') ∈ entriesBefore key input := by
      refine List.mem_filter.mpr ⟨?_, decide_eq_true hless⟩
      rw [hsplit']
      exact List.mem_append_right _ List.mem_cons_self
    rw [entriesBefore_of_split hinput hsplit] at hmem
    obtain ⟨front'', rest'', hfront⟩ := List.append_of_mem hmem
    have hsplit'' : input = front'' ++ (lesser, value') :: (rest'' ++ (key, value) :: rest) := by
      rw [hsplit, hfront, List.append_assoc]
      rfl
    have hsame : front' = front'' := by
      rw [← entriesBefore_of_split hinput hsplit', entriesBefore_of_split hinput hsplit'']
    refine hpassed front'' lesser value' rest'' hfront e' ?_
    rw [List.nil_append, ← hsame]
    exact hfault'
  · rw [List.nil_append] at hslots
    have hnone : ∀ key e, ¬ FaultAt fields strict input key e := by
      intro key e hfault
      obtain ⟨front, value, rest, hsplit, hfault⟩ := (faultAt_iff hinput).mp hfault
      exact hpassed front key value rest hsplit e hfault
    rw [hok]
    rcases completeSlots_run hinput hslots fields (fun _ h => h) with
      ⟨front, field, rest, hsplit, hfront, hmissing, herror⟩ | ⟨hmissing, held, hheld, hok⟩
    · show Outcome fields strict input (completeSlots slots fields)
      rw [herror]
      exact .missing hnone hsplit hfront hmissing
    · show Outcome fields strict input (completeSlots slots fields)
      rw [hok]
      exact .complete hnone hmissing hheld

/-! ## There is one outcome -/

theorem FaultAt.unique {input : Fields} {key : String} {e e' : DecodeError}
    (h : FaultAt fields strict input key e) (h' : FaultAt fields strict input key e') : e = e' := by
  obtain ⟨value, hvalue, hfault⟩ := h
  obtain ⟨value', hvalue', hfault'⟩ := h'
  obtain rfl := Option.some.inj (hvalue.symm.trans hvalue')
  exact hfault.unique hfault'

/-- Of two entries for one field the second is refused. -/
theorem faultAt_of_lt {input : Fields} (hinput : Keyed.Ascending input) {key key' : String}
    {value value' : Field} {field : Label × Shape} (hlt : key < key')
    (hvalue : Keyed.get? key input = some value) (hvalue' : Keyed.get? key' input = some value')
    (hkey : fieldOf? fields key = some field) (hkey' : fieldOf? fields key' = some field) :
    FaultAt fields strict input key' (.duplicateField field.1.key) := by
  have hbefore : (key, value) ∈ entriesBefore key' input :=
    List.mem_filter.mpr ⟨hinput.get?_eq_some_iff.mp hvalue,
      decide_eq_true ((Utf8.encode_lt_iff _ _).mpr hlt)⟩
  exact ⟨value', hvalue', .again hkey' ⟨_, hbefore, hkey⟩⟩

/-- Where no entry is refused, a field holds one thing. -/
theorem Holds.unique {input : Fields} (hinput : Keyed.Ascending input)
    (hnone : ∀ key e, ¬ FaultAt fields strict input key e) {field : Label × Shape}
    {held held' : String × Datum} (h : Holds fields input field held)
    (h' : Holds fields input field held') : held = held' := by
  have htaken {key : String} {value : Field} (hvalue : Keyed.get? key input = some value)
      (hkey : fieldOf? fields key = some field) : Taken fields input field :=
    ⟨_, hinput.get?_eq_some_iff.mp hvalue, hkey⟩
  cases h with
  | given hvalue hkey hdatum =>
    rename_i key value datum
    cases h' with
    | given hvalue' hkey' hdatum' =>
      rename_i key' value' datum'
      -- under two keys the entry of the greater one would be refused
      rcases Std.lt_trichotomy key key' with hlt | rfl | hgt
      · exact absurd (faultAt_of_lt hinput hlt hvalue hvalue' hkey hkey') (hnone _ _)
      · obtain rfl := Option.some.inj (hvalue.symm.trans hvalue')
        rw [Except.ok.inj (hdatum.symm.trans hdatum')]
      · exact absurd (faultAt_of_lt hinput hgt hvalue' hvalue hkey' hkey) (hnone _ _)
    | fallback hnot _ => exact absurd (htaken hvalue hkey) hnot
    | absent hnot _ => exact absurd (htaken hvalue hkey) hnot
  | fallback hnot hfallback =>
    cases h' with
    | given hvalue hkey _ => exact absurd (htaken hvalue hkey) hnot
    | fallback _ hfallback' => rw [Option.some.inj (hfallback.symm.trans hfallback')]
    | absent _ hfallback' =>
      rw [hfallback'] at hfallback
      contradiction
  | absent hnot hfallback =>
    cases h' with
    | given hvalue hkey _ => exact absurd (htaken hvalue hkey) hnot
    | fallback _ hfallback' =>
      rw [hfallback] at hfallback'
      contradiction
    | absent _ _ => rfl

/-- The first missing field is one. -/
theorem missing_unique {input : Fields} {front front' rest rest' : List (Label × Shape)}
    {field field' : Label × Shape} (hsplit : front ++ field :: rest = front' ++ field' :: rest')
    (hfront : ∀ other ∈ front, ¬ Missing fields input other) (hfield : Missing fields input field)
    (hfront' : ∀ other ∈ front', ¬ Missing fields input other)
    (hfield' : Missing fields input field') : field = field' := by
  induction front generalizing front' with
  | nil =>
    cases front' with
    | nil => exact (List.cons.inj hsplit).1
    | cons other front' =>
      obtain ⟨rfl, -⟩ := List.cons.inj hsplit
      exact absurd hfield (hfront' _ List.mem_cons_self)
  | cons other front ih =>
    cases front' with
    | nil =>
      obtain ⟨rfl, -⟩ := List.cons.inj hsplit
      exact absurd hfield' (hfront _ List.mem_cons_self)
    | cons other' front' =>
      exact ih (List.cons.inj hsplit).2 (List.forall_mem_cons.mp hfront).2
        (List.forall_mem_cons.mp hfront').2

/-- **A request has one outcome.** -/
theorem Outcome.unique {input : Fields} (hinput : Keyed.Ascending input)
    {own own' : Except DecodeError Slots} (h : Outcome fields strict input own)
    (h' : Outcome fields strict input own') : own = own' := by
  -- outcomes of two kinds disagree on whether an entry is refused or a field is missing
  cases h with
  | fault hfault hleast =>
    rename_i key e
    cases h' with
    | fault hfault' hleast' =>
      rename_i key' e'
      rcases Std.lt_trichotomy key key' with hlt | rfl | hgt
      · exact absurd hfault (hleast' _ _ ((Utf8.encode_lt_iff _ _).mpr hlt))
      · rw [hfault.unique hfault']
      · exact absurd hfault' (hleast _ _ ((Utf8.encode_lt_iff _ _).mpr hgt))
    | missing hnone _ _ _ => exact absurd hfault (hnone _ _)
    | complete hnone _ _ => exact absurd hfault (hnone _ _)
  | missing hnone hfields hearlier hmissing =>
    cases h' with
    | fault hfault _ => exact absurd hfault (hnone _ _)
    | missing _ hfields' hearlier' hmissing' =>
      rw [missing_unique (hfields.symm.trans hfields') hearlier hmissing hearlier' hmissing']
    | complete _ hmissing' _ =>
      have hmem : _ ∈ fields := hfields ▸ List.mem_append_right _ List.mem_cons_self
      exact absurd hmissing (hmissing' _ hmem)
  | complete hnone hmissing hheld =>
    cases h' with
    | fault hfault _ => exact absurd hfault (hnone _ _)
    | missing _ hfields' _ hmissing' =>
      have hmem : _ ∈ fields := hfields' ▸ List.mem_append_right _ List.mem_cons_self
      exact absurd hmissing' (hmissing _ hmem)
    | complete _ _ hheld' =>
      have hsame : Relator.RightUnique (Holds fields input) :=
        fun _ _ _ ha hb => ha.unique hinput hnone hb
      rw [List.right_unique_forall₂' hsame hheld hheld']

/-- Each of the elements on the left is related to one on the right. -/
theorem exists_of_forall₂_left {α β : Type} {r : α → β → Prop} {xs : List α} {ys : List β}
    (h : List.Forall₂ r xs ys) {x : α} (hx : x ∈ xs) : ∃ y ∈ ys, r x y := by
  induction h with
  | nil => contradiction
  | cons hxy _ ih =>
    rcases List.mem_cons.mp hx with rfl | hx
    · exact ⟨_, List.mem_cons_self, hxy⟩
    · obtain ⟨y, hy, hxy⟩ := ih hx
      exact ⟨y, List.mem_cons_of_mem _ hy, hxy⟩

/-- A complete record holds in a field what the value under its key decodes to. -/
theorem Outcome.held_of_get? {input : Fields} (hinput : Keyed.Ascending input) {held : Slots}
    (h : Outcome fields strict input (.ok held)) {key : String} {value : Field}
    {field : Label × Shape} (hvalue : Keyed.get? key input = some value)
    (hkey : fieldOf? fields key = some field) :
    ∃ datum, field.2.decode (.ofField value) = .ok datum ∧ (field.1.key, datum) ∈ held := by
  cases h with
  | complete hnone hmissing hheld =>
    cases hdatum : field.2.decode (.ofField value) with
    | error e =>
      -- the value is refused, or another key of the field stands before it
      by_cases htaken : Taken fields (entriesBefore key input) field
      · exact absurd ⟨value, hvalue, .again hkey htaken⟩ (hnone _ _)
      · exact absurd ⟨value, hvalue, .value hkey htaken hdatum⟩ (hnone _ _)
    | ok datum =>
      obtain ⟨pair, hpair, hholds⟩ := exists_of_forall₂_left hheld (mem_of_fieldOf? hkey)
      obtain rfl := hholds.unique hinput hnone (.given hvalue hkey hdatum)
      exact ⟨datum, rfl, hpair⟩

/-- The fields of a record come out in one way, that in which they are read. -/
theorem outcome_iff (hkeys : (fields.map (·.1.key)).Nodup) (strict : Bool) {input : Fields}
    (hinput : Keyed.Ascending input) (other : Except DecodeError Slots) :
    Outcome fields strict input other ↔
      other = (fillSlots (takeField fields) (strayField strict fields) [] input).bind
        fun slots => completeSlots slots fields := by
  have houtcome := outcome_of_ascending hkeys strict hinput
  constructor
  · intro h
    exact h.unique hinput houtcome
  · rintro rfl
    exact houtcome

end Rowgate.Input
