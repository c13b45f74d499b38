import Rowgate.Config.App
import Rowgate.Proofs.Documents
/-
The configuration that a document spells.

A document is read section by section, and a section field by field: a field that the document gives
a value holds it, if it is a value of the field's kind, and every other field holds its default.
`AppConfig.ReadFrom` says so without running anything, and `AppConfig.spelled?_eq_some_iff` says that
this is what reading does, for documents that can be read at all.
-/
set_option autoImplicit false

namespace Rowgate

open Input (Datum Label Shape Slots Defaulted Supplied)
open Toml (Value)

/-! ## Configurations as data -/

namespace Input

/-- The fields of a record. -/
def Shape.fields : Shape → List (Label × Shape)
  | .record _ fields _ => fields
  | _ => []

/-- The fields of a record as data. -/
def Datum.slots : Datum → Slots
  | .record held => held
  | _ => []

/-- What a configuration keeps of a datum of a kind: a text, a natural number or an optional
text. -/
def Shape.keep : Shape → Datum → Datum
  | .string, d => .text d.asText
  | .integer range, d => if 0 ≤ range.least then .integer d.asNat else d
  | .option .string, d => ServerConfig.optionalText d.asText?
  | _, d => d

theorem contains_of_decodeInteger {range : Text.IntegerRange} {source : Source} {n : Int}
    (h : decodeInteger range source = .ok n) : range.contains n = true := by
  unfold decodeInteger at h
  split at h
  -- a JSON number, kept or not, is compared with the range, and a text is read by it
  · split at h
    · cases h
      assumption
    · contradiction
  · split at h
    · cases h
      assumption
    · contradiction
  · split at h
    · rename_i hread
      cases h
      exact (Option.filter_eq_some_iff.mp hread).2
    · contradiction
  · contradiction

/-- An option holds nothing or what its inner shape made of the source. -/
theorem Source.optional_eq_ok {source : Source} {result : Except DecodeError Datum} {d : Datum}
    (h : source.optional result = .ok d) : d = .none ∨ ∃ inner, result = .ok inner ∧
      d = .some inner := by
  unfold Source.optional at h
  split at h
  · cases h
    exact .inl rfl
  · obtain ⟨inner, hinner, rfl⟩ := map_eq_ok.mp h
    exact .inr ⟨inner, hinner, rfl⟩

/-- A datum of a kind is kept as it is. -/
theorem Shape.keep_of_decode {shape : Shape} {source : Source} {d : Datum}
    (h : shape.decode source = .ok d) : shape.keep d = d := by
  unfold Shape.keep
  split
  · obtain ⟨s, -, rfl⟩ := map_eq_ok.mp h
    rfl
  · rename_i range
    obtain ⟨n, hn, rfl⟩ := map_eq_ok.mp h
    have hcontains := contains_of_decodeInteger hn
    rw [Text.IntegerRange.contains, Bool.and_eq_true, decide_eq_true_eq] at hcontains
    by_cases hleast : 0 ≤ range.least
    · rw [if_pos hleast]
      have hnat : ((n.toNat : Nat) : Int) = n := Int.toNat_of_nonneg (by omega)
      exact congrArg Datum.integer hnat
    · rw [if_neg hleast]
  · unfold Shape.decode at h
    split at h
    · cases h
      rfl
    · rcases Source.optional_eq_ok h with rfl | ⟨inner, hinner, rfl⟩
      · rfl
      · obtain ⟨s, -, rfl⟩ := map_eq_ok.mp hinner
        rfl
  · rfl

end Input

/-! ## Sections with their defaults -/

namespace Toml

/-- What a field holds: the value that it is given, decoded by the shape of the field, or else its
default. -/
def FieldHolds (shape : Shape) (default : Datum) : Option Value → Datum → Prop
  | some v, d => ∃ j, v.Spells j ∧ shape.decode (.json j) = .ok d
  | none, d => d = default

/-- The fields of a datum hold what a section gives them; those that it gives nothing hold what they
hold in the defaults, and where there is no section they all do. -/
def Gives (fields : List (Label × Shape)) (defaults : Datum) (part : Option Value) (d : Datum) :
    Prop :=
  ∀ place label shape, fields[place]? = some (label, shape) →
    FieldHolds shape (defaults.field label.key) (part.bind (·.part? label.key place))
      (d.field label.key)

/-- The fields of a section, each with one key of its own, and the record of their defaults. -/
structure HasDefaults (fields : List (Label × Shape)) (defaults : Slots) : Prop where
  keys : (fields.map (·.1.key)).Nodup
  aliases : ∀ field ∈ fields, field.1.aliases = []
  /-- a field without a value takes the default -/
  labels : fields.map (fun field => (field.1.key, field.1.fallback)) =
    defaults.map fun pair => (pair.1, some pair.2)
  /-- the defaults are data that a configuration keeps -/
  kept : (fields.map fun field =>
    (field.1.key, field.2.keep ((Datum.record defaults).field field.1.key))) = defaults
  /-- the key under which JSON keeps the text of a date is not one of theirs -/
  undated : ∀ field ∈ fields, field.1.key ≠ "datetime"

variable {fields : List (Label × Shape)} {defaults : Slots}

namespace HasDefaults

theorem held_keys (h : HasDefaults fields defaults) :
    defaults.map (·.1) = fields.map (·.1.key) := by
  have hkeys := congrArg (List.map (·.1)) h.labels
  rw [List.map_map, List.map_map] at hkeys
  exact hkeys.symm

theorem fallback (h : HasDefaults fields defaults) {place : Nat} {field : Label × Shape}
    (hfield : fields[place]? = some field) :
    field.1.fallback = some ((Datum.record defaults).field field.1.key) := by
  have hlabels := congrArg (·[place]?) h.labels
  simp only [List.getElem?_map, hfield, Option.map_some] at hlabels
  obtain ⟨pair, hpair, heq⟩ := Option.map_eq_some_iff.mp hlabels.symm
  obtain ⟨hkey, hdatum⟩ := Prod.mk.inj heq
  have hmem : (field.1.key, pair.2) ∈ defaults := hkey ▸ List.mem_of_getElem? hpair
  rw [Datum.field_of_mem (h.held_keys ▸ h.keys) hmem]
  exact hdatum.symm

theorem defaulted (h : HasDefaults fields defaults) : Defaulted fields where
  keys := h.keys
  aliases := h.aliases
  fallback field hfield := by
    obtain ⟨place, hplace⟩ := List.getElem?_of_mem hfield
    rw [h.fallback hplace]
    rfl

/-- A default is kept as it is. -/
theorem keep_default (h : HasDefaults fields defaults) {field : Label × Shape}
    (hfield : field ∈ fields) :
    field.2.keep ((Datum.record defaults).field field.1.key) =
      (Datum.record defaults).field field.1.key := by
  have hmem : (field.1.key, field.2.keep ((Datum.record defaults).field field.1.key)) ∈
      defaults := by
    have hmap := List.mem_map_of_mem (f := fun field : Label × Shape =>
      (field.1.key, field.2.keep ((Datum.record defaults).field field.1.key))) hfield
    rwa [h.kept] at hmap
  exact (Datum.field_of_mem (h.held_keys ▸ h.keys) hmem).symm

end HasDefaults

/-- A field with a text takes strings and nothing else. -/
theorem fieldHolds_text_iff {default d : Datum} {v : Value} :
    FieldHolds .string default (some v) d ↔ ∃ s, v = .string s ∧ d = .text s := by
  constructor
  · rintro ⟨j, hj, hdecode⟩
    obtain ⟨s, hs, rfl⟩ := map_eq_ok.mp hdecode
    refine ⟨s, ?_, rfl⟩
    -- of the values only a string is spelled as one
    cases v with
    | string text =>
      cases hj
      cases hs
      rfl
    | array items =>
      obtain ⟨_, -, rfl⟩ := Option.map_eq_some_iff.mp hj
      contradiction
    | table entries =>
      obtain ⟨_, -, rfl⟩ := Option.map_eq_some_iff.mp hj
      contradiction
    | _ => cases hj <;> contradiction
  · rintro ⟨s, rfl, rfl⟩
    exact ⟨.string s, rfl, rfl⟩

/-- A field of a section holds what the section gives it in JSON. -/
theorem supplied_part_iff (h : HasDefaults fields defaults) {place : Nat} {label : Label}
    {shape : Shape} (hfield : fields[place]? = some (label, shape)) {part : Option Value}
    {given : Option Json} (hgiven : Option.Rel Value.Spells part given) (datum : Datum) :
    Supplied given (label, shape) datum ↔
      FieldHolds shape ((Datum.record defaults).field label.key) part datum := by
  cases hgiven with
  | none =>
    show label.fallback = some datum ↔ datum = _
    rw [h.fallback hfield, Option.some.injEq, eq_comm]
  | @some v j hspells =>
    constructor
    · intro hdatum
      exact ⟨j, hspells, hdatum⟩
    · rintro ⟨j', hspells', hdatum⟩
      obtain rfl := Option.some.inj (hspells.symm.trans hspells')
      exact hdatum

/-- **A section of a document, where it is cut to its fields and read as JSON.** A missing one gives
no field a value. -/
theorem supplied_section_iff (h : HasDefaults fields defaults) (name : String) (label : Label)
    (hlabel : label.fallback = some (.record defaults)) {part : Option Value}
    (hordered : ∀ w, part = some w → w.Ordered) {given : Option Json}
    (hgiven : Option.Rel Value.Spells (part.map (Value.cut fields.length)) given) (d : Datum) :
    Supplied given (label, .record name fields false) d ↔
      (∀ w, part = some w → w.IsSection) ∧ ∃ held, d = .record held ∧
        held.map (·.1) = fields.map (·.1.key) ∧ Gives fields (.record defaults) part d := by
  cases part with
  | none =>
    cases hgiven
    show label.fallback = some d ↔ _
    rw [hlabel, Option.some.injEq]
    constructor
    · rintro rfl
      exact ⟨by simp, defaults, rfl, h.held_keys, fun _ _ _ _ => rfl⟩
    · rintro ⟨-, held, rfl, hheld, hgives⟩
      refine congrArg Datum.record ?_
      rw [Input.slots_eq_map held (hheld ▸ h.keys), hheld,
        Input.slots_eq_map defaults (h.held_keys ▸ h.keys), h.held_keys]
      refine List.map_congr_left fun key hkey => ?_
      obtain ⟨⟨label, shape⟩, hfield, rfl⟩ := List.mem_map.mp hkey
      obtain ⟨place, hplace⟩ := List.getElem?_of_mem hfield
      rw [hgives place label shape hplace]
  | some w =>
    have hw := hordered w rfl
    cases hgiven with
    | @some _ j hspells =>
      show (Shape.record name fields false).decode (.json j) = .ok d ↔ _
      rw [Shape.decode_section h.defaulted name ((hw.cut _).toJson hspells),
        Value.isSection_cut_iff hspells]
      have hpart {place : Nat} {label : Label} {shape : Shape}
          (hfield : fields[place]? = some (label, shape)) :
          Option.Rel Value.Spells (w.part? label.key place) (j.part? label.key place) := by
        have hplace : place < fields.length := (List.getElem?_eq_some_iff.mp hfield).1
        rw [← w.part?_cut hplace]
        exact Value.part?_toJson hspells (h.undated _ (List.mem_of_getElem? hfield)) place
      have hgives : (∀ place field, fields[place]? = some field →
          Supplied (j.part? field.1.key place) field (d.field field.1.key)) ↔
          Gives fields (.record defaults) (some w) d := by
        constructor
        · intro hsupplied place label shape hfield
          have hdatum := hsupplied place _ hfield
          exact (supplied_part_iff h hfield (hpart hfield) _).mp hdatum
        · rintro hgives place ⟨label, shape⟩ hfield
          have hdatum := hgives place label shape hfield
          exact (supplied_part_iff h hfield (hpart hfield) _).mpr hdatum
      rw [hgives]
      simp

/-- A section holds what a configuration keeps. -/
theorem Gives.keep {part : Option Value} {held : Slots}
    (hgives : Gives fields (.record defaults) part (.record held))
    (h : HasDefaults fields defaults) (hkeys : held.map (·.1) = fields.map (·.1.key)) :
    (fields.map fun field =>
      (field.1.key, field.2.keep ((Datum.record held).field field.1.key))) = held := by
  have hsame (field : Label × Shape) (hfield : field ∈ fields) :
      field.2.keep ((Datum.record held).field field.1.key) =
        (Datum.record held).field field.1.key := by
    obtain ⟨place, hplace⟩ := List.getElem?_of_mem hfield
    have hdatum := hgives place field.1 field.2 hplace
    cases hpart : part.bind (·.part? field.1.key place) with
    | none =>
      rw [hpart] at hdatum
      have hdefault : (Datum.record held).field field.1.key =
        (Datum.record defaults).field field.1.key := hdatum
      rw [hdefault]
      exact h.keep_default hfield
    | some v =>
      rw [hpart] at hdatum
      obtain ⟨j, -, hdecode⟩ := hdatum
      exact Shape.keep_of_decode hdecode
  have hheld := Input.slots_eq_map held (hkeys ▸ h.keys)
  rw [hkeys, List.map_map] at hheld
  exact Eq.trans (List.map_congr_left fun field hfield => congrArg (Prod.mk field.1.key)
    (hsame field hfield)) hheld.symm

end Toml

/-! ## The two sections -/

namespace DatabaseConfig

theorem hasDefaults : Toml.HasDefaults shape.fields ({} : DatabaseConfig).toDatum.slots where
  keys := by decide
  aliases := by decide
  labels := rfl
  kept := rfl
  undated := by decide

theorem ofDatum_toDatum (c : DatabaseConfig) : ofDatum c.toDatum = c := rfl

/-- A configuration keeps of a datum what its shape says. -/
theorem toDatum_ofDatum (d : Datum) : (ofDatum d).toDatum = .record (shape.fields.map
    fun field => (field.1.key, field.2.keep (d.field field.1.key))) := rfl

end DatabaseConfig

namespace ServerConfig

theorem hasDefaults : Toml.HasDefaults shape.fields ({} : ServerConfig).toDatum.slots where
  keys := by decide
  aliases := by decide
  labels := rfl
  kept := rfl
  undated := by decide

theorem ofDatum_toDatum (c : ServerConfig) : ofDatum c.toDatum = c := by
  obtain ⟨host, port, catalogPath⟩ := c
  cases catalogPath <;> rfl

theorem toDatum_ofDatum (d : Datum) : (ofDatum d).toDatum = .record (shape.fields.map
    fun field => (field.1.key, field.2.keep (d.field field.1.key))) := rfl

end ServerConfig

/-! ## The whole -/

namespace AppConfig

theorem defaulted : Defaulted shape.fields where
  keys := by decide
  aliases := by decide
  fallback := by decide

/-- The document with its two sections cut to their fields. -/
def cut (v : Value) : Value :=
  (v.takeRow "database" DatabaseConfig.shape.width).takeRow "server" ServerConfig.shape.width

/-- A document that can be read: with its sections cut to their fields no number in it is too large,
and its sections are tables, rows or dates. -/
structure Readable (v : Value) : Prop where
  spelled : (cut v).toJson?.isSome = true
  database : ∀ w, v.get? "database" = some w → w.IsSection
  server : ∀ w, v.get? "server" = some w → w.IsSection

/-- The configuration is the one that a document spells. -/
structure ReadFrom (v : Value) (c : AppConfig) : Prop where
  database : Toml.Gives DatabaseConfig.shape.fields ({} : DatabaseConfig).toDatum
    (v.get? "database") c.database.toDatum
  server : Toml.Gives ServerConfig.shape.fields ({} : ServerConfig).toDatum
    (v.get? "server") c.server.toDatum

/-- The part of a configuration that the database is. -/
def databaseLabel : Label := { key := "database", fallback := some ({} : DatabaseConfig).toDatum }

/-- The part of a configuration that the server is. -/
def serverLabel : Label := { key := "server", fallback := some ({} : ServerConfig).toDatum }

theorem isDocument_cut {v : Value} (hv : v.IsDocument) : (cut v).IsDocument :=
  (hv.takeRow _ _).takeRow _ _

theorem get?_cut {v : Value} (hv : v.IsDocument) (key : String) :
    (cut v).get? key = (v.get? key).map fun w =>
      if key = "database" then w.cut DatabaseConfig.shape.fields.length
      else if key = "server" then w.cut ServerConfig.shape.fields.length else w := by
  rw [cut, (hv.takeRow _ _).get?_takeRow, hv.get?_takeRow, Option.map_map]
  refine congrArg (Option.map · _) (funext fun w => ?_)
  show (if key = "server" then
      (if key = "database" then w.cut DatabaseConfig.shape.fields.length else w).cut
        ServerConfig.shape.fields.length
    else if key = "database" then w.cut DatabaseConfig.shape.fields.length else w) = _
  by_cases hserver : key = "server"
  · have hother : key ≠ "database" := by
      rw [hserver]
      decide
    rw [if_pos hserver, if_neg hother, if_neg hother, if_pos hserver]
  · rw [if_neg hserver, if_neg hserver]

/-- What the document gives a section is what its JSON does. -/
theorem part?_cut {v : Value} (hv : v.IsDocument) {j : Json} (h : (cut v).Spells j) {key : String}
    (hkey : key ≠ "datetime") (place : Nat) :
    Option.Rel Value.Spells ((cut v).get? key) (j.part? key place) := by
  rw [← (isDocument_cut hv).part?_eq key place]
  exact Value.part?_toJson h hkey place

theorem decode_json_iff {v : Value} (hv : v.IsDocument) {j : Json} (h : (cut v).Spells j)
    (c : AppConfig) :
    (∃ d, shape.decode (.json j) = .ok d ∧ ofDatum d = c) ↔
      (∀ w, v.get? "database" = some w → w.IsSection) ∧
      (∀ w, v.get? "server" = some w → w.IsSection) ∧ ReadFrom v c := by
  have hdecode (d : Datum) := Shape.decode_section defaulted "AppConfig"
    ((isDocument_cut hv).ordered.toJson h) d
  have hsection := (isDocument_cut hv).isSection_toJson h shape.fields.length
  have hgiven {key : String} (hkey : key ≠ "datetime") (place : Nat) := part?_cut hv h hkey place
  have hdatabase := hgiven (show "database" ≠ "datetime" by decide) 0
  have hserver := hgiven (show "server" ≠ "datetime" by decide) 1
  rw [get?_cut hv] at hdatabase hserver
  have hdatabase (d : Datum) := Toml.supplied_section_iff DatabaseConfig.hasDefaults
    "DatabaseConfig" databaseLabel rfl (fun w hw => hv.get?_ordered hw) hdatabase d
  have hserver (d : Datum) := Toml.supplied_section_iff ServerConfig.hasDefaults
    "ServerConfig" serverLabel rfl (fun w hw => hv.get?_ordered hw) hserver d
  constructor
  · rintro ⟨d, hd, rfl⟩
    obtain ⟨-, held, rfl, -, hsupplied⟩ := (hdecode d).mp hd
    obtain ⟨hdatabaseSection, database, hd, hkeys, hdatabase⟩ :=
      (hdatabase _).mp (hsupplied 0 _ rfl)
    obtain ⟨hserverSection, server, hs, hkeys', hserver⟩ := (hserver _).mp (hsupplied 1 _ rfl)
    refine ⟨hdatabaseSection, hserverSection, ?_, ?_⟩
    · show Toml.Gives _ _ _ (DatabaseConfig.ofDatum ((Datum.record held).field "database")).toDatum
      rw [hd] at hdatabase ⊢
      rw [DatabaseConfig.toDatum_ofDatum, hdatabase.keep DatabaseConfig.hasDefaults hkeys]
      exact hdatabase
    · show Toml.Gives _ _ _ (ServerConfig.ofDatum ((Datum.record held).field "server")).toDatum
      rw [hs] at hserver ⊢
      rw [ServerConfig.toDatum_ofDatum, hserver.keep ServerConfig.hasDefaults hkeys']
      exact hserver
  · rintro ⟨hdatabaseSection, hserverSection, hfrom⟩
    refine ⟨.record [("database", c.database.toDatum), ("server", c.server.toDatum)],
      (hdecode _).mpr ⟨hsection, _, rfl, rfl, fun place field hfield => ?_⟩, ?_⟩
    · match place with
      | 0 =>
        cases hfield
        exact (hdatabase _).mpr ⟨hdatabaseSection, _, rfl, rfl, hfrom.database⟩
      | 1 =>
        cases hfield
        exact (hserver _).mpr ⟨hserverSection, _, rfl, rfl, hfrom.server⟩
      | place + 2 => contradiction
    · show AppConfig.mk (DatabaseConfig.ofDatum c.database.toDatum)
        (ServerConfig.ofDatum c.server.toDatum) = c
      rw [DatabaseConfig.ofDatum_toDatum, ServerConfig.ofDatum_toDatum]

theorem document?_eq (text : String) :
    document? text = (Toml.parse? text).bind fun v => (cut v).toJson? := rfl

/-- **What a text spells.** -/
theorem spelled?_eq_some_iff (text : String) (c : AppConfig) :
    spelled? text = some c ↔ ∃ v, Toml.parse? text = some v ∧ Readable v ∧ ReadFrom v c := by
  have hspelled : spelled? text = some c ↔ ∃ v, Toml.parse? text = some v ∧ ∃ j,
      (cut v).Spells j ∧ ∃ d, shape.decode (.json j) = .ok d ∧ ofDatum d = c := by
    rw [spelled?, document?_eq]
    constructor
    · intro h
      obtain ⟨j, hj, h⟩ := Option.bind_eq_some_iff.mp h
      obtain ⟨d, hdecode, hd⟩ := Option.bind_eq_some_iff.mp h
      obtain ⟨v, hv, hj⟩ := Option.bind_eq_some_iff.mp hj
      exact ⟨v, hv, j, hj, d, toOption_eq_some_iff.mp hdecode, Option.some.inj hd⟩
    · rintro ⟨v, hv, j, hj, d, hdecode, rfl⟩
      have hcut : (cut v).toJson? = some j := hj
      rw [hv, Option.bind_some, hcut]
      simp only [Option.bind_eq_bind, Option.bind_some, hdecode]
      rfl
  rw [hspelled]
  constructor
  · rintro ⟨v, hv, j, hj, hdecode⟩
    obtain ⟨hdatabase, hserver, hfrom⟩ :=
      (decode_json_iff (Toml.parse?_isDocument hv) hj c).mp hdecode
    exact ⟨v, hv, ⟨Option.isSome_iff_exists.mpr ⟨j, hj⟩, hdatabase, hserver⟩, hfrom⟩
  · rintro ⟨v, hv, ⟨hreadable, hdatabase, hserver⟩, hfrom⟩
    obtain ⟨j, hj⟩ := Option.isSome_iff_exists.mp hreadable
    exact ⟨v, hv, j, hj, (decode_json_iff (Toml.parse?_isDocument hv) hj c).mpr
      ⟨hdatabase, hserver, hfrom⟩⟩

end AppConfig

end Rowgate
