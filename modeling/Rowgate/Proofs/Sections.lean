import Rowgate.Proofs.Bodies
import Rowgate.Proofs.Checked
import Rowgate.Proofs.Outcome
/-
Records that may leave out any of their fields.

Where every field of a record has a default and goes by one key, a JSON value is read as a section:
an object gives a field the member under its key, and a row the item at its place. A field that is
given a value holds what the value decodes to, and a field that is given none holds its default. A
section decodes exactly where this holds for every field (`Shape.decode_section`); what an object
has under other keys is of no account, but a row must not go on behind the last field.
-/
set_option autoImplicit false

namespace Rowgate

/-! ## Sections -/

namespace Json

/-- What a section gives for one of its fields: the member under the key of the field or, in a row,
the item at the place of the field. -/
def part? (key : String) (place : Nat) : Json → Option Json
  | .object members => Keyed.get? key members
  | .array items => items[place]?
  | _ => none

/-- A value with ascending keys, if it is an object. -/
def Ordered (v : Json) : Prop := ∀ members, v = .object members → Keyed.Ascending members

/-- An object, or a row of at most so many items. -/
inductive IsSection (width : Nat) : Json → Prop where
  | object (members : List (String × Json)) : IsSection width (.object members)
  | row {items : List Json} (h : items.length ≤ width) : IsSection width (.array items)

end Json

namespace Input

/-- Every field goes by one key, by which no other field goes, and has a default. -/
structure Defaulted (fields : List (Label × Shape)) : Prop where
  keys : (fields.map (·.1.key)).Nodup
  aliases : ∀ field ∈ fields, field.1.aliases = []
  fallback : ∀ field ∈ fields, field.1.fallback.isSome = true

/-- What a field holds that is given a value, or none. -/
def Supplied : Option Json → Label × Shape → Datum → Prop
  | some v, field, datum => field.2.decode (.json v) = .ok datum
  | none, field, datum => field.1.fallback = some datum

variable {fields : List (Label × Shape)}

/-! ## Fields by their keys -/

theorem accepts_of_fieldOf? {key : String} {field : Label × Shape}
    (h : fieldOf? fields key = some field) : field.1.accepts key = true := by
  have haccepts := List.find?_some h
  exact haccepts

namespace Defaulted

/-- A key names the field that goes by it. -/
theorem fieldOf?_eq_some_iff (hfields : Defaulted fields) {key : String} {field : Label × Shape} :
    fieldOf? fields key = some field ↔ field ∈ fields ∧ field.1.key = key := by
  have haccepts {other : Label × Shape} (hother : other ∈ fields) :
      other.1.accepts key = true ↔ other.1.key = key := by
    simp [Label.accepts, hfields.aliases other hother]
  constructor
  · intro h
    have hmem := mem_of_fieldOf? h
    exact ⟨hmem, (haccepts hmem).mp (accepts_of_fieldOf? h)⟩
  · rintro ⟨hmem, hkey⟩
    cases hfound : fieldOf? fields key with
    | none =>
      have hnot := List.find?_eq_none.mp hfound field hmem
      exact absurd ((haccepts hmem).mpr hkey) hnot
    | some other =>
      have hother := mem_of_fieldOf? hfound
      have hsame : other.1.key = field.1.key :=
        ((haccepts hother).mp (accepts_of_fieldOf? hfound)).trans hkey.symm
      rw [List.inj_on_of_nodup_map hfields.keys hother hmem hsame]

theorem not_missing (hfields : Defaulted fields) {input : Fields} {field : Label × Shape}
    (hfield : field ∈ fields) : ¬ Missing fields input field := by
  rintro ⟨-, hnone, -⟩
  have hsome := hfields.fallback field hfield
  rw [hnone] at hsome
  contradiction

end Defaulted

/-! ## Objects -/

theorem get?_ofObject (key : String) (members : List (String × Json)) :
    Keyed.get? key (Fields.ofObject members) = (Keyed.get? key members).map Field.json :=
  Keyed.get?_map (fun _ => Field.json) key members

/-- A field is taken by an entry exactly if there is a member under its key. -/
theorem taken_ofObject_iff (hfields : Defaulted fields) {members : List (String × Json)}
    (hmembers : Keyed.Ascending members) {field : Label × Shape} (hfield : field ∈ fields) :
    Taken fields (Fields.ofObject members) field ↔
      ∃ v, Keyed.get? field.1.key members = some v := by
  have hinput : Keyed.Ascending (Fields.ofObject members) := hmembers.mapValues Field.json
  constructor
  · rintro ⟨⟨key, value⟩, hmem, hkey⟩
    obtain ⟨-, rfl⟩ := hfields.fieldOf?_eq_some_iff.mp hkey
    have hget := hinput.get?_eq_some_iff.mpr hmem
    rw [get?_ofObject] at hget
    obtain ⟨v, hv, -⟩ := Option.map_eq_some_iff.mp hget
    exact ⟨v, hv⟩
  · rintro ⟨v, hv⟩
    refine ⟨(field.1.key, .json v), ?_, hfields.fieldOf?_eq_some_iff.mpr ⟨hfield, rfl⟩⟩
    rw [← hinput.get?_eq_some_iff, get?_ofObject, hv]
    rfl

/-- What a field of an object holds is what the member under its key supplies. -/
theorem holds_ofObject_iff (hfields : Defaulted fields) {members : List (String × Json)}
    (hmembers : Keyed.Ascending members) {field : Label × Shape} (hfield : field ∈ fields)
    (pair : String × Datum) :
    Holds fields (Fields.ofObject members) field pair ↔
      pair.1 = field.1.key ∧ Supplied (Keyed.get? field.1.key members) field pair.2 := by
  have htaken := taken_ofObject_iff hfields hmembers hfield
  constructor
  · rintro (⟨hvalue, hkey, hdatum⟩ | ⟨hnot, hfallback⟩ | ⟨-, hfallback⟩)
    · obtain ⟨-, rfl⟩ := hfields.fieldOf?_eq_some_iff.mp hkey
      rw [get?_ofObject] at hvalue
      obtain ⟨v, hv, rfl⟩ := Option.map_eq_some_iff.mp hvalue
      rw [hv]
      exact ⟨rfl, hdatum⟩
    · cases hget : Keyed.get? field.1.key members with
      | none => exact ⟨rfl, hfallback⟩
      | some v => exact absurd (htaken.mpr ⟨v, hget⟩) hnot
    · have hsome := hfields.fallback _ hfield
      rw [hfallback] at hsome
      contradiction
  · obtain ⟨key, datum⟩ := pair
    rintro ⟨rfl, hsupplied⟩
    cases hget : Keyed.get? field.1.key members with
    | none =>
      rw [hget] at hsupplied
      refine .fallback (fun h => ?_) hsupplied
      obtain ⟨v, hv⟩ := htaken.mp h
      rw [hget] at hv
      contradiction
    | some v =>
      rw [hget] at hsupplied
      have hvalue : Keyed.get? field.1.key (Fields.ofObject members) = some (.json v) := by
        rw [get?_ofObject, hget]
        rfl
      exact .given hvalue (hfields.fieldOf?_eq_some_iff.mpr ⟨hfield, rfl⟩) hsupplied

/-- In an object whose members supply every field no entry is refused. -/
theorem not_faultAt_ofObject (hfields : Defaulted fields) {members : List (String × Json)}
    (hsupplied : ∀ field ∈ fields, ∃ datum, Supplied (Keyed.get? field.1.key members) field datum)
    (key : String) (e : DecodeError) : ¬ FaultAt fields false (Fields.ofObject members) key e := by
  rintro ⟨value, hvalue, hfault⟩
  rcases hfault with ⟨-, hstrict⟩ | ⟨hkey, ⟨entry, hentry, hsame⟩⟩ | ⟨hkey, -, herror⟩
  · contradiction
  -- an entry of the same field has the same key, so it does not come before
  · obtain ⟨-, rfl⟩ := hfields.fieldOf?_eq_some_iff.mp hkey
    obtain ⟨-, hentrykey⟩ := hfields.fieldOf?_eq_some_iff.mp hsame
    have hless := of_decide_eq_true (List.mem_filter.mp hentry).2
    rw [Utf8.encode_lt_iff, hentrykey] at hless
    exact String.lt_irrefl _ hless
  · obtain ⟨hfield, rfl⟩ := hfields.fieldOf?_eq_some_iff.mp hkey
    obtain ⟨datum, hdatum⟩ := hsupplied _ hfield
    rw [get?_ofObject] at hvalue
    obtain ⟨v, hv, rfl⟩ := Option.map_eq_some_iff.mp hvalue
    rw [hv] at hdatum
    exact absurd (hdatum.symm.trans herror) (by simp)

theorem forall₂_congr_left {α β : Type} {r s : α → β → Prop} {xs : List α} {ys : List β}
    (h : ∀ x ∈ xs, ∀ y, r x y ↔ s x y) : List.Forall₂ r xs ys ↔ List.Forall₂ s xs ys := by
  induction xs generalizing ys with
  | nil => rw [List.forall₂_nil_left_iff, List.forall₂_nil_left_iff]
  | cons x xs ih =>
    obtain ⟨hx, hxs⟩ := List.forall_mem_cons.mp h
    simp only [List.forall₂_cons_left_iff, hx, ih hxs]

/-- **An object gives every field the member under its key.** -/
theorem Shape.decode_defaulted_object (hfields : Defaulted fields) (name : String)
    {members : List (String × Json)} (hmembers : Keyed.Ascending members) (d : Datum) :
    (Shape.record name fields false).decode (.json (.object members)) = .ok d ↔
      ∃ held, d = .record held ∧ List.Forall₂ (fun field pair => pair.1 = field.1.key ∧
        Supplied (Keyed.get? field.1.key members) field pair.2) fields held := by
  have hinput : Keyed.Ascending (Fields.ofObject members) := hmembers.mapValues Field.json
  have hholds (held : Slots) : List.Forall₂ (Holds fields (Fields.ofObject members)) fields held ↔
      List.Forall₂ (fun field pair => pair.1 = field.1.key ∧
        Supplied (Keyed.get? field.1.key members) field pair.2) fields held :=
    forall₂_congr_left fun field hfield pair => holds_ofObject_iff hfields hmembers hfield pair
  have hread : (Shape.record name fields false).decode (.json (.object members)) =
      ((fillSlots (takeField fields) (strayField false fields) [] (Fields.ofObject members)).bind
        fun slots => completeSlots slots fields).map .record := by
    rw [Shape.decode_record (.object members)]
    cases fillSlots (takeField fields) (strayField false fields) [] (Fields.ofObject members) with
    | error e => rfl
    | ok slots => rfl
  rw [hread, map_eq_ok]
  constructor
  · rintro ⟨held, hrun, rfl⟩
    refine ⟨held, rfl, ?_⟩
    have houtcome := (outcome_iff hfields.keys false hinput (.ok held)).mpr hrun.symm
    cases houtcome with
    | complete hnone hmissing hheld => exact (hholds held).mp hheld
  · rintro ⟨held, rfl, hheld⟩
    refine ⟨held, ?_, rfl⟩
    refine ((outcome_iff hfields.keys false hinput (.ok held)).mp ?_).symm
    refine .complete ?_ (fun field hfield => hfields.not_missing hfield) ((hholds held).mpr hheld)
    refine not_faultAt_ofObject hfields fun field hfield => ?_
    obtain ⟨pair, -, -, hpair⟩ := exists_of_forall₂_left hheld hfield
    exact ⟨pair.2, hpair⟩

/-! ## Rows -/

/-- The first field takes the first item that is left or, behind the last item, its default. -/
theorem decodeRow_cons_eq_ok_iff {label : Label} (hfallback : label.fallback.isSome = true)
    (shape : Shape) (whole : Json) (expected : String) (total i first : Nat) (items : List Json)
    (held : Slots) :
    decodeRow (.json whole) expected total ((label, shape) :: fields) (items.drop first) i =
        .ok held ↔
      ∃ datum rest, Supplied items[first]? (label, shape) datum ∧
        decodeRow (.json whole) expected total fields (items.drop (first + 1)) (i + 1) =
          .ok rest ∧
        held = (label.key, datum) :: rest := by
  rw [← List.head?_drop, ← List.tail_drop]
  cases items.drop first with
  | nil =>
    obtain ⟨datum, hdatum⟩ := Option.isSome_iff_exists.mp hfallback
    rw [decodeRow, hdatum]
    simp only [bind_eq_ok]
    constructor
    · rintro ⟨rest, hrest, heq⟩
      cases heq
      exact ⟨datum, rest, hdatum, hrest, rfl⟩
    · rintro ⟨datum', rest, hdatum', hrest, rfl⟩
      obtain rfl := Option.some.inj (hdatum.symm.trans hdatum')
      exact ⟨rest, hrest, rfl⟩
  | cons v items =>
    rw [decodeRow]
    simp only [bind_eq_ok]
    constructor
    · rintro ⟨datum, hdatum, rest, hrest, heq⟩
      cases heq
      exact ⟨datum, rest, hdatum, hrest, rfl⟩
    · rintro ⟨datum, rest, hdatum, hrest, rfl⟩
      exact ⟨datum, hdatum, rest, hrest, rfl⟩

/-- **A row gives every field the item at its place**, and ends with the last field at the
latest. -/
theorem decodeRow_eq_ok_iff (hfallback : ∀ field ∈ fields, field.1.fallback.isSome = true)
    (whole : Json) (expected : String) (total i first : Nat) (items : List Json) (held : Slots) :
    decodeRow (.json whole) expected total fields (items.drop first) i = .ok held ↔
      items.length ≤ first + fields.length ∧ List.Forall₂ (fun taken pair =>
        pair.1 = taken.1.1.key ∧ Supplied items[taken.2]? taken.1 pair.2)
          (fields.zipIdx first) held := by
  induction fields generalizing first i held with
  | nil =>
    rw [List.zipIdx_nil, List.forall₂_nil_left_iff]
    cases hrest : items.drop first with
    | nil =>
      have hlength : items.length ≤ first := List.drop_eq_nil_iff.mp hrest
      rw [decodeRow]
      simp [hlength, eq_comm]
    | cons v rest =>
      have hlength : ¬ items.length ≤ first := fun h => by
        rw [List.drop_eq_nil_iff.mpr h] at hrest
        contradiction
      rw [decodeRow]
      simp [hlength]
  | cons field fields ih =>
    obtain ⟨label, shape⟩ := field
    obtain ⟨hhead, htail⟩ := List.forall_mem_cons.mp hfallback
    have hlength : first + ((label, shape) :: fields).length = first + 1 + fields.length := by
      rw [List.length_cons]
      omega
    rw [decodeRow_cons_eq_ok_iff hhead, List.zipIdx_cons, List.forall₂_cons_left_iff, hlength]
    simp only [ih htail]
    constructor
    · rintro ⟨datum, rest, hdatum, ⟨hshort, hrest⟩, rfl⟩
      exact ⟨hshort, (label.key, datum), rest, ⟨rfl, hdatum⟩, hrest, rfl⟩
    · rintro ⟨hshort, ⟨key, datum⟩, rest, ⟨rfl, hdatum⟩, hrest, rfl⟩
      exact ⟨datum, rest, hdatum, ⟨hshort, hrest⟩, rfl⟩

/-! ## Sections -/

/-- Under a key that it has once a record holds what stands beside the key. -/
theorem Datum.field_of_mem {held : Slots} (hkeys : (held.map (·.1)).Nodup) {key : String}
    {datum : Datum} (hmem : (key, datum) ∈ held) : (Datum.record held).field key = datum := by
  obtain ⟨front, rest, rfl⟩ := List.append_of_mem hmem
  have hlookup : (front ++ (key, datum) :: rest).lookup key = Option.some datum := by
    refine List.lookup_eq_some_iff.mpr ⟨front, rest, rfl, fun pair hpair => ?_⟩
    rw [List.map_append, List.nodup_append] at hkeys
    have hne := hkeys.2.2 pair.1 (List.mem_map_of_mem hpair) key List.mem_cons_self
    exact bne_iff_ne.mpr hne.symm
  rw [Datum.field, hlookup]
  rfl

/-- Slots with different keys are told by their keys and by what the record holds under them. -/
theorem slots_eq_map (held : Slots) (hkeys : (held.map (·.1)).Nodup) :
    held = (held.map (·.1)).map fun key => (key, (Datum.record held).field key) := by
  rw [List.map_map]
  refine (List.map_id held).symm.trans (List.map_congr_left fun pair hpair => ?_)
  exact Prod.ext rfl (Datum.field_of_mem hkeys hpair).symm

/-- Slots that stand one for one for the fields are told by their keys and by what the record holds
under the key of each field. -/
theorem forall₂_zipIdx_iff (hkeys : (fields.map (·.1.key)).Nodup) (held : Slots)
    (p : Nat → Label × Shape → Datum → Prop) :
    List.Forall₂ (fun taken pair => pair.1 = taken.1.1.key ∧ p taken.2 taken.1 pair.2)
        fields.zipIdx held ↔
      held.map (·.1) = fields.map (·.1.key) ∧ ∀ place field, fields[place]? = some field →
        p place field ((Datum.record held).field field.1.key) := by
  rw [List.forall₂_iff_get]
  simp only [List.get_eq_getElem, List.getElem_zipIdx, List.length_zipIdx, Nat.zero_add]
  constructor
  · rintro ⟨hlength, hget⟩
    have hsame : held.map (·.1) = fields.map (·.1.key) := by
      refine List.ext_getElem (by simp [hlength]) fun place hheld hfield => ?_
      rw [List.length_map] at hheld hfield
      rw [List.getElem_map, List.getElem_map]
      exact (hget place hfield hheld).1
    refine ⟨hsame, fun place field hfield => ?_⟩
    obtain ⟨hplace, rfl⟩ := List.getElem?_eq_some_iff.mp hfield
    obtain ⟨hkey, hp⟩ := hget place hplace (hlength ▸ hplace)
    have hmem : (fields[place].1.key, held[place].2) ∈ held := by
      rw [← hkey]
      exact List.getElem_mem _
    rw [Datum.field_of_mem (hsame ▸ hkeys) hmem]
    exact hp
  · rintro ⟨hsame, hfields⟩
    have hlength : fields.length = held.length := by
      have hboth := congrArg List.length hsame
      rw [List.length_map, List.length_map] at hboth
      exact hboth.symm
    refine ⟨hlength, fun place hfield hheld => ?_⟩
    have hkey : held[place].1 = fields[place].1.key := by
      have hboth : (held.map (·.1))[place]? = (fields.map (·.1.key))[place]? := by rw [hsame]
      simpa [hfield, hheld] using hboth
    have hmem : (fields[place].1.key, held[place].2) ∈ held := by
      rw [← hkey]
      exact List.getElem_mem _
    have hp := hfields place fields[place] (List.getElem?_eq_getElem hfield)
    rw [Datum.field_of_mem (hsame ▸ hkeys) hmem] at hp
    exact ⟨hkey, hp⟩

/-- **A section holds what it gives each field.** For a record whose fields all have defaults and a
JSON value with ascending keys: the value decodes exactly if it is an object or a row that does not
go on behind the last field, and every value that it gives to a field decodes by the shape of the
field; the record then holds these values and the defaults of the other fields. -/
theorem Shape.decode_section (hfields : Defaulted fields) (name : String) {v : Json}
    (hv : v.Ordered) (d : Datum) :
    (Shape.record name fields false).decode (.json v) = .ok d ↔
      v.IsSection fields.length ∧ ∃ held, d = .record held ∧
        held.map (·.1) = fields.map (·.1.key) ∧ ∀ place field, fields[place]? = some field →
          Supplied (v.part? field.1.key place) field (d.field field.1.key) := by
  cases v with
  | object members =>
    rw [Shape.decode_defaulted_object hfields name (hv members rfl)]
    have hheld (held : Slots) := forall₂_zipIdx_iff hfields.keys held fun _ field datum =>
      Supplied (Keyed.get? field.1.key members) field datum
    have hplaces (held : Slots) := List.forall₂_map_left_iff (f := Prod.fst) (l := fields.zipIdx)
      (u := held) (R := fun field pair => pair.1 = field.1.key ∧
        Supplied (Keyed.get? field.1.key members) field pair.2)
    rw [List.zipIdx_map_fst] at hplaces
    constructor
    · rintro ⟨held, rfl, h⟩
      exact ⟨.object members, held, rfl, (hheld held).mp ((hplaces held).mp h)⟩
    · rintro ⟨-, held, rfl, h⟩
      exact ⟨held, rfl, (hplaces held).mpr ((hheld held).mpr h)⟩
  | array items =>
    have hrow (expected : String) (total : Nat) (held : Slots) :=
      decodeRow_eq_ok_iff hfields.fallback (.array items) expected total 0 0 items held
    have hheld (held : Slots) := forall₂_zipIdx_iff hfields.keys held fun place field datum =>
      Supplied items[place]? field datum
    rw [Shape.decode_record_row name fields false rfl, map_eq_ok]
    simp only [List.drop_zero, Nat.zero_add] at hrow
    simp only [hrow, hheld]
    constructor
    · rintro ⟨held, ⟨hlength, h⟩, rfl⟩
      exact ⟨.row hlength, held, rfl, h⟩
    · rintro ⟨hsection, held, rfl, h⟩
      cases hsection with
      | row hlength => exact ⟨held, ⟨hlength, h⟩, rfl⟩
  -- any other value is refused
  | _ =>
    constructor
    · intro h
      unfold Shape.decode at h
      contradiction
    · rintro ⟨hsection, -⟩
      cases hsection

end Input

end Rowgate
