import Rowgate.Proofs.Configuration
/-
Documents that differ in the host of the database.

A host is the text that the section of the database gives its first field, under a key or as the
first item of a row. Written anew it changes this one field of the configuration that a document
spells, and nothing of whether the document can be read: where a text is read, a text that differs
in the host is read as the configuration with the other host (`AppConfig.spelled?_differ`).
-/
set_option autoImplicit false

namespace Rowgate

open Input (Datum)

namespace Keyed

variable {α : Type}

/-- A value that is put back makes the table what it was. -/
theorem Ascending.insert_insert {table : Keyed α} (h : Ascending table) {key : String} {value : α}
    (hget : get? key table = some value) (other : α) :
    Keyed.insert key value (Keyed.insert key other table) = table := by
  refine ((h.insert key other).insert key value).ext h fun k => ?_
  rw [get?_insert, get?_insert]
  by_cases hkey : k = key
  · rw [if_pos hkey, hkey, hget]
  · rw [if_neg hkey, if_neg hkey]

end Keyed

/-! ## Documents that differ in one text -/

namespace Toml.Value

/-- The host that a section gives, if it is a text. -/
def host? (part : Value) : Option String :=
  match part.part? "host" 0 with
  | some (.string host) => some host
  | _ => none

/-- The section with another host. -/
def withHost (host : String) : Value → Value
  | .table entries => .table (Keyed.insert "host" (.string host) entries)
  | .array items => .array (items.set 0 (.string host))
  | part => part

/-- The host of the database that a document gives, if it is a text. -/
def databaseHost? (v : Value) : Option String := (v.get? "database").bind host?

/-- The document with another host of the database. -/
def withDatabaseHost (host : String) : Value → Value
  | .table entries =>
    match Keyed.get? "database" entries with
    | some part => .table (Keyed.insert "database" (part.withHost host) entries)
    | none => .table entries
  | v => v

/-- Two documents that differ in the text that is the host of the database, and in nothing else. -/
structure DifferInHost (v v' : Value) (host host' : String) : Prop where
  given : v.databaseHost? = some host
  other : v' = v.withDatabaseHost host'

/-! ## Sections with another host -/

/-- A section with a host is a table that has one or a row that starts with one. -/
inductive HasHost (host : String) : Value → Prop where
  | table {entries : List (String × Value)}
    (h : Keyed.get? "host" entries = some (.string host)) : HasHost host (.table entries)
  | row (items : List Value) : HasHost host (.array (.string host :: items))

theorem hasHost_of_host? {part : Value} {host : String} (h : part.host? = some host) :
    part.HasHost host := by
  unfold host? at h
  split at h
  · rename_i text hpart
    cases h
    cases part with
    | table entries => exact .table hpart
    | array items =>
      cases items with
      | nil => contradiction
      | cons item items =>
        cases hpart
        exact .row items
    | _ => contradiction
  · contradiction

namespace HasHost

variable {part : Value} {host : String}

theorem isSection (h : part.HasHost host) (host' : String) :
    (part.withHost host').IsSection := by
  cases h
  · exact .table _
  · exact .row _

theorem part?_given (h : part.HasHost host) : part.part? "host" 0 = some (.string host) := by
  cases h with
  | table hget => exact hget
  | row items => rfl

/-- The new host is given. -/
theorem part?_host (h : part.HasHost host) (host' : String) :
    (part.withHost host').part? "host" 0 = some (.string host') := by
  cases h
  · show Keyed.get? "host" (Keyed.insert "host" _ _) = _
    rw [Keyed.get?_insert, if_pos rfl]
  · rfl

/-- Other fields are given what they were given. -/
theorem part?_other (h : part.HasHost host) (host' : String) {key : String} {place : Nat}
    (hkey : key ≠ "host") (hplace : place ≠ 0) :
    (part.withHost host').part? key place = part.part? key place := by
  cases h
  · show Keyed.get? key (Keyed.insert "host" _ _) = _
    rw [Keyed.get?_insert, if_neg hkey]
    rfl
  · obtain ⟨place, rfl⟩ := Nat.exists_eq_succ_of_ne_zero hplace
    rfl

theorem ordered (h : part.HasHost host) (hpart : part.Ordered) (host' : String) :
    (part.withHost host').Ordered := by
  cases h
  · rintro entries heq
    cases heq
    exact (hpart _ rfl).insert _ _
  · rintro entries heq
    contradiction

theorem withHost_withHost (h : part.HasHost host) (hpart : part.Ordered) (host' : String) :
    (part.withHost host').withHost host = part := by
  cases h with
  | table hget => exact congrArg Value.table ((hpart _ rfl).insert_insert hget _)
  | row items => rfl

/-- Cut to its fields, the section is JSON with any host if it is with one. -/
theorem isSome_toJson?_cut (h : part.HasHost host) (host' : String) (width : Nat)
    (hspelled : (part.cut width).toJson?.isSome = true) :
    ((part.withHost host').cut width).toJson?.isSome = true := by
  cases h with
  | @table entries hget =>
    have hold : (Value.table entries).toJson?.isSome = true := hspelled
    show (Value.table _).toJson?.isSome = true
    rw [toJson?, Option.isSome_map, isSome_entriesToJson?_iff] at hold ⊢
    intro entry hentry
    rcases Keyed.mem_insert hentry with rfl | hentry
    · rfl
    · exact hold entry hentry
  | row items =>
    cases width with
    | zero => rfl
    | succ width =>
      have hold : (Value.array (.string host :: items.take width)).toJson?.isSome = true := hspelled
      show (Value.array (.string host' :: items.take width)).toJson?.isSome = true
      rw [toJson?, Option.isSome_map, isSome_itemsToJson?_iff] at hold ⊢
      exact List.forall_mem_cons.mpr ⟨rfl, (List.forall_mem_cons.mp hold).2⟩

end HasHost

/-! ## Documents with another host -/

theorem withDatabaseHost_table {entries : List (String × Value)} {part : Value}
    (h : Keyed.get? "database" entries = some part) (host : String) :
    (Value.table entries).withDatabaseHost host =
      .table (Keyed.insert "database" (part.withHost host) entries) := by
  rw [withDatabaseHost, h]

namespace DifferInHost

variable {v v' : Value} {host host' : String}

/-- The section of the database has a host, and everything else that a document holds is the same
with another one. -/
theorem sections (h : DifferInHost v v' host host') (hv : v.IsDocument) :
    ∃ part, v.get? "database" = some part ∧ part.HasHost host ∧
      v'.get? "database" = some (part.withHost host') ∧
      (∀ key, key ≠ "database" → v'.get? key = v.get? key) ∧ v'.IsDocument := by
  obtain ⟨hgiven, rfl⟩ := h
  obtain ⟨part, hpart, hhost⟩ := Option.bind_eq_some_iff.mp hgiven
  have hhas := hasHost_of_host? hhost
  have hordered := hv.get?_ordered hpart
  cases hv with
  | @table entries hkeys hvalues =>
    have hpart : Keyed.get? "database" entries = some part := hpart
    rw [withDatabaseHost_table hpart]
    refine ⟨part, hpart, hhas, ?_, fun key hkey => ?_, ?_⟩
    · rw [get?, Keyed.get?_insert, if_pos rfl]
    · rw [get?, Keyed.get?_insert, if_neg hkey]
      rfl
    · refine .table (hkeys.insert _ _) fun key w hw => ?_
      rw [Keyed.get?_insert] at hw
      by_cases hkey : key = "database"
      · rw [if_pos hkey] at hw
        exact Option.some.inj hw ▸ hhas.ordered hordered host'
      · rw [if_neg hkey] at hw
        exact hvalues key w hw

/-- The first document differs from the second as the second does from the first. -/
theorem symm (h : DifferInHost v v' host host') (hv : v.IsDocument) :
    DifferInHost v' v host' host := by
  obtain ⟨part, hpart, hhas, hpart', -, -⟩ := h.sections hv
  refine ⟨?_, ?_⟩
  · rw [databaseHost?, hpart', Option.bind_some, host?, hhas.part?_host]
  · have hback := hhas.withHost_withHost (hv.get?_ordered hpart) host'
    obtain ⟨-, rfl⟩ := h
    cases hv with
    | @table entries hkeys hvalues =>
      have hpart : Keyed.get? "database" entries = some part := hpart
      have hother : Keyed.get? "database"
          (Keyed.insert "database" (part.withHost host') entries) = some (part.withHost host') := by
        rw [Keyed.get?_insert, if_pos rfl]
      rw [withDatabaseHost_table hpart, withDatabaseHost_table hother, hback,
        hkeys.insert_insert hpart]

end DifferInHost

end Toml.Value

/-! ## Configurations with another host -/

theorem Input.Datum.field_cons_of_ne {key other : String} (h : key ≠ other) (datum : Datum)
    (held : Input.Slots) :
    (Datum.record ((other, datum) :: held)).field key = (Datum.record held).field key := by
  rw [Datum.field, Datum.field, List.lookup_cons, beq_eq_false_iff_ne.mpr h]

/-- The host is the first field of the database, and the only one with its key. -/
theorem DatabaseConfig.key_ne_host {place : Nat} {field : Input.Label × Input.Shape}
    (h : shape.fields[place + 1]? = some field) : field.1.key ≠ "host" := by
  have hkeys : ∀ field ∈ shape.fields.tail, field.1.key ≠ "host" := by decide
  exact hkeys field (List.mem_of_getElem? h)

namespace AppConfig

/-- The configuration with another host of the database. -/
def withDatabaseHost (c : AppConfig) (host : String) : AppConfig :=
  { c with database := c.database.withHost host }

variable {v v' : Toml.Value} {host host' : String}

theorem Readable.differ (h : Readable v) (hv : v.IsDocument)
    (hdiffer : v.DifferInHost v' host host') : Readable v' := by
  obtain ⟨part, hpart, hhas, hpart', hsame, hv'⟩ := hdiffer.sections hv
  have hspelled := ((isDocument_cut hv).isSome_toJson?_iff).mp h.spelled
  refine ⟨((isDocument_cut hv').isSome_toJson?_iff).mpr fun key w hw => ?_, ?_, ?_⟩
  · rw [get?_cut hv'] at hw
    by_cases hkey : key = "database"
    · have hold := hspelled "database" (part.cut DatabaseConfig.shape.fields.length) (by
        rw [get?_cut hv, hpart]
        rfl)
      rw [hkey, hpart'] at hw
      cases hw
      exact hhas.isSome_toJson?_cut host' _ hold
    · rw [hsame key hkey, ← get?_cut hv] at hw
      exact hspelled key w hw
  · intro w hw
    rw [hpart'] at hw
    cases hw
    exact hhas.isSection host'
  · intro w hw
    rw [hsame "server" (by decide)] at hw
    exact h.server w hw

/-- Read from a document with another host a configuration has that host, and all else is the
same. -/
theorem ReadFrom.differ {c : AppConfig} (h : ReadFrom v c) (hv : v.IsDocument)
    (hdiffer : v.DifferInHost v' host host') :
    c.database.host = host ∧ ReadFrom v' (c.withDatabaseHost host') := by
  obtain ⟨part, hpart, hhas, hpart', hsame, -⟩ := hdiffer.sections hv
  have hdatabase := h.database
  rw [hpart] at hdatabase
  refine ⟨?_, ⟨?_, ?_⟩⟩
  · have hhost : Toml.FieldHolds .string _ (part.part? "host" 0) (.text c.database.host) :=
      hdatabase 0 _ _ rfl
    rw [hhas.part?_given] at hhost
    obtain ⟨text, htext, hdatum⟩ := Toml.fieldHolds_text_iff.mp hhost
    exact (Datum.text.inj hdatum).trans (Toml.Value.string.inj htext).symm
  · rw [hpart']
    intro place label shape hfield
    cases place with
    | zero =>
      cases hfield
      show Toml.FieldHolds .string _ ((part.withHost host').part? "host" 0) (.text host')
      rw [hhas.part?_host]
      exact Toml.fieldHolds_text_iff.mpr ⟨host', rfl, rfl⟩
    | succ place =>
      have hkey : label.key ≠ "host" := DatabaseConfig.key_ne_host hfield
      have hold : Toml.FieldHolds shape _ (part.part? label.key (place + 1))
        (c.database.toDatum.field label.key) := hdatabase (place + 1) label shape hfield
      have hdatum : (c.database.withHost host').toDatum.field label.key =
          c.database.toDatum.field label.key := by
        rw [DatabaseConfig.toDatum, DatabaseConfig.toDatum, Datum.field_cons_of_ne hkey,
          Datum.field_cons_of_ne hkey]
        rfl
      show Toml.FieldHolds shape _ ((part.withHost host').part? label.key (place + 1))
        ((c.database.withHost host').toDatum.field label.key)
      rw [hhas.part?_other host' hkey (Nat.succ_ne_zero place), hdatum]
      exact hold
  · rw [hsame "server" (by decide)]
    exact h.server

/-- Where a text spells a configuration, a text whose document has another host spells the
configuration with that host. -/
theorem spelled?_differ {text text' : String} (hv : Toml.parse? text = some v)
    (hv' : Toml.parse? text' = some v') (hdiffer : v.DifferInHost v' host host') {c : AppConfig}
    (hspelled : spelled? text = some c) :
    c.database.host = host ∧ spelled? text' = some (c.withDatabaseHost host') := by
  obtain ⟨w, hw, hreadable, hfrom⟩ := (spelled?_eq_some_iff text c).mp hspelled
  obtain rfl := Option.some.inj (hv.symm.trans hw)
  have hdocument := Toml.parse?_isDocument hv
  obtain ⟨hhost, hfrom'⟩ := hfrom.differ hdocument hdiffer
  have hreadable' := hreadable.differ hdocument hdiffer
  exact ⟨hhost, (spelled?_eq_some_iff _ _).mpr ⟨v', hv', hreadable', hfrom'⟩⟩

end AppConfig

end Rowgate
