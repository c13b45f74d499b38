import Rowgate.Proofs.Bodies
import Rowgate.Proofs.Merging
import Rowgate.Proofs.Outcome
/-
Records from requests.

A record has the outcome of its fields. A record with a flattened part first decides its own fields
and then decodes the part from the entries that are left. Unless a record is strict, it sees only the
entries whose keys name a field, of its own or of a flattened record; the flattened record sees no
others, be it strict or not.

The main result is `Shape.decode_record_outcome`. That the least key with a bad value decides the
error, and that good values make a record, takes a record without a flattened part whose fields are
given once each (`Shape.least_bad_value_need_not_decide`).
-/
set_option autoImplicit false

namespace Rowgate.Input

/-! ## Keys that name a field -/

/-- A request decodes to the record that its fields make. -/
theorem Shape.decode_record_request (name : String) (fields : List (Label × Shape)) (strict : Bool)
    (input : Fields) :
    (Shape.record name fields strict).decode (.request input) =
      ((fillSlots (takeField fields) (strayField strict fields) [] input).bind
        fun slots => completeSlots slots fields).map .record := by
  rw [Shape.decode_record (.request input)]
  cases fillSlots (takeField fields) (strayField strict fields) [] input with
  | error e => rfl
  | ok slots => rfl

/-- A value that does not decode to the field that its key names is refused with the whole
request. -/
theorem Shape.decode_record_of_bad_entry (name : String) {fields : List (Label × Shape)}
    (strict : Bool) {input : Fields} {key : String} {value : Field} {field : Label × Shape}
    {e : DecodeError} (hkey : fieldOf? fields key = some field)
    (hvalue : field.2.decode (.ofField value) = .error e) (hmem : (key, value) ∈ input) :
    ∃ e', (Shape.record name fields strict).decode (.request input) = .error e' := by
  obtain ⟨e', he'⟩ := exists_error_of_mem (strayField strict fields) hkey hvalue hmem []
  refine ⟨e', ?_⟩
  rw [Shape.decode_record_request, he']
  rfl

/-- A record that a request makes holds in a field what the value under its key decodes to. -/
theorem Shape.decode_record_entry {name : String} {fields : List (Label × Shape)} {strict : Bool}
    (hkeys : (fields.map (·.1.key)).Nodup) {input : Fields} (hinput : Keyed.Ascending input)
    {key : String} {value : Field} {field : Label × Shape}
    (hvalue : Keyed.get? key input = some value) (hkey : fieldOf? fields key = some field)
    {made : Datum} (h : (Shape.record name fields strict).decode (.request input) = .ok made) :
    ∃ datum held, field.2.decode (.ofField value) = .ok datum ∧ made = .record held ∧
      (field.1.key, datum) ∈ held := by
  rw [Shape.decode_record_request] at h
  have houtcome := outcome_of_ascending hkeys strict hinput
  cases hown : (fillSlots (takeField fields) (strayField strict fields) [] input).bind
      fun slots => completeSlots slots fields with
  | error e =>
    rw [hown] at h
    contradiction
  | ok held =>
    rw [hown] at h houtcome
    obtain rfl := Except.ok.inj h
    obtain ⟨datum, hdatum, hmem⟩ := houtcome.held_of_get? hinput hvalue hkey
    exact ⟨datum, held, hdatum, rfl, hmem⟩

/-! ## Keys that name no field -/

/-- A record that is not strict is told by the entries that name its fields. -/
theorem Shape.decode_record_filter (name : String) (fields : List (Label × Shape))
    (input : Fields) :
    (Shape.record name fields false).decode (.request input) =
      (fillSlots (takeField fields) (fun _ => .ok ()) []
        (input.filter fun entry => (fieldOf? fields entry.1).isSome)).bind
          fun slots => (completeSlots slots fields).map .record := by
  rw [Shape.decode_record (.request input),
    ← fillSlots_filter fun key value hkey => takeField_of_none hkey value]
  rfl

/-- Requests that agree on the keys that name a field have the same entries that name one. -/
theorem naming_of_agree {fields : List (Label × Shape)} {input input' : Fields}
    (hinput : Keyed.Ascending input) (hinput' : Keyed.Ascending input')
    (h : ∀ key, fieldOf? fields key ≠ none → Keyed.get? key input = Keyed.get? key input') :
    (input.filter fun entry => (fieldOf? fields entry.1).isSome) =
      input'.filter fun entry => (fieldOf? fields entry.1).isSome :=
  hinput.filter_eq hinput' (p := fun key => (fieldOf? fields key).isSome) fun key hkey =>
    h key (Option.isSome_iff_ne_none.mp hkey)

/-- Requests that agree on the keys that name a field give the same record. -/
theorem Shape.decode_record_of_agree (name : String) (fields : List (Label × Shape))
    {input input' : Fields} (hinput : Keyed.Ascending input) (hinput' : Keyed.Ascending input')
    (h : ∀ key, fieldOf? fields key ≠ none → Keyed.get? key input = Keyed.get? key input') :
    (Shape.record name fields false).decode (.request input) =
      (Shape.record name fields false).decode (.request input') := by
  rw [Shape.decode_record_filter, Shape.decode_record_filter, naming_of_agree hinput hinput' h]

/-! ## Flattened parts -/

/-- A record with a flattened part decodes its own fields first and the part from what is left. -/
theorem Shape.decode_flattened (name : String) (fields : List (Label × Shape)) (rest : String)
    (inner : Shape) (input : Fields) :
    (Shape.flattened name fields rest inner).decode (.request input) =
      ((fillSlots (takeField fields) (fun _ => .ok ()) [] input).bind
        fun slots => completeSlots slots fields).bind fun own =>
          (inner.decode (.rest (remainder (fun key => !takesKey fields key) input))).map
            fun others => .record (own ++ [(rest, others)]) := by
  have hdecode : (Shape.flattened name fields rest inner).decode (.request input) = do
      let slots ← fillSlots (takeField fields) (fun _ => .ok ()) [] input
      let own ← completeSlots slots fields
      let others ← inner.decode (.rest (remainder (fun key => !takesKey fields key) input))
      return .record (own ++ [(rest, others)]) := rfl
  rw [hdecode]
  cases fillSlots (takeField fields) (fun _ => .ok ()) [] input with
  | error e => rfl
  | ok slots => rfl

theorem takesKey_eq (fields : List (Label × Shape)) (key : String) :
    takesKey fields key = (fieldOf? fields key).isSome := by
  rw [fieldOf?, List.isSome_find?]
  rfl

/-- What is left of the entries, as a record is shown it: the entries that name its fields. -/
theorem shown?_remainder (partFields : List (Label × Shape)) (keep : String → Bool)
    (input : List (String × Field)) :
    (Source.rest (remainder keep input)).shown? (takesKey partFields) =
      some (((input.filter fun entry => (fieldOf? partFields entry.1).isSome).filter
        fun entry => keep entry.1).map fun entry => (entry.1, .json entry.2.toJson)) := by
  -- to be kept and to name a field of the part are conditions on the key alone
  have hswap : (((input.filter fun entry => keep entry.1).map fun entry =>
      (entry.1, Field.json entry.2.toJson)).filter fun entry => takesKey partFields entry.1) =
      ((input.filter fun entry => (fieldOf? partFields entry.1).isSome).filter
        fun entry => keep entry.1).map fun entry => (entry.1, .json entry.2.toJson) := by
    rw [List.filter_map, List.filter_filter, List.filter_filter]
    simp only [Function.comp_def, takesKey_eq, Bool.and_comm]
  rw [← hswap]
  show some (List.filter _ (List.map _ (remainder keep input))) = _
  rw [remainder, List.map_map]
  rfl

/-- A record sees of what is left the entries that name its fields, be it strict or not. -/
theorem Shape.decode_remainder_record (part : String) {partFields : List (Label × Shape)}
    (strict : Bool) (keep : String → Bool) {input input' : Fields}
    (h : (input.filter fun entry => (fieldOf? partFields entry.1).isSome) =
      input'.filter fun entry => (fieldOf? partFields entry.1).isSome) :
    (Shape.record part partFields strict).decode (.rest (remainder keep input)) =
      (Shape.record part partFields strict).decode (.rest (remainder keep input')) := by
  rw [Shape.decode_record_shown part strict rfl (shown?_remainder partFields keep input),
    Shape.decode_record_shown part strict rfl (shown?_remainder partFields keep input'), h]
  rfl

/-- A flattened option holds what its inner shape made of what is left, if it made something. -/
theorem Shape.decode_option_rest (inner : Shape) (entries : List (String × Json)) :
    (Shape.option inner).decode (.rest entries) =
      match inner.decode (.rest entries) with
      | .ok datum => .ok (.some datum)
      | .error _ => .ok .none := by
  show Source.optional (.rest entries) (inner.decode (.rest entries)) = _
  cases inner.decode (.rest entries) <;> rfl

/-- The fields of a record, or of the record that an option or a newtype is around. -/
def Shape.recordFields? : Shape → Option (List (Label × Shape))
  | .record _ fields _ => some fields
  | .option inner | .newtype inner => inner.recordFields?
  | _ => none

/-- A record, alone or in options and newtypes, is told by the entries that name its fields. -/
theorem Shape.decode_remainder_of_agree {partFields : List (Label × Shape)} (keep : String → Bool)
    {input input' : Fields}
    (h : (input.filter fun entry => (fieldOf? partFields entry.1).isSome) =
      input'.filter fun entry => (fieldOf? partFields entry.1).isSome) :
    ∀ inner : Shape, inner.recordFields? = some partFields →
      inner.decode (.rest (remainder keep input)) = inner.decode (.rest (remainder keep input'))
  | .record part _ strict, hfields => by
    obtain rfl := Option.some.inj hfields
    exact Shape.decode_remainder_record part strict keep h
  | .option inner, hfields => by
    have ih := Shape.decode_remainder_of_agree keep h inner hfields
    rw [Shape.decode_option_rest, Shape.decode_option_rest, ih]
  | .newtype inner, hfields => by
    have ih := Shape.decode_remainder_of_agree keep h inner hfields
    rw [Shape.decode, Shape.decode, ih]
  | .bool, hfields | .integer _, hfields | .wideInteger _, hfields | .nonzero _, hfields
  | .double, hfields | .single, hfields | .char, hfields | .string, hfields | .unit, hfields
  | .unitRecord _, hfields | .sequence _, hfields | .tuple _, hfields | .map _ _, hfields
  | .variants _ _, hfields | .json, hfields | .ignored, hfields | .flattened _ _ _ _, hfields
  | .tagged _ _ _, hfields | .untagged _ _, hfields => by contradiction

/-- Requests that agree on the keys that name an own field or a field of the flattened record give
the same record. -/
theorem Shape.decode_flattened_of_agree (name rest : String) (fields : List (Label × Shape))
    {inner : Shape} {partFields : List (Label × Shape)} {input input' : Fields}
    (hinner : inner.recordFields? = some partFields)
    (hinput : Keyed.Ascending input) (hinput' : Keyed.Ascending input')
    (h : ∀ key, fieldOf? fields key ≠ none ∨ fieldOf? partFields key ≠ none →
      Keyed.get? key input = Keyed.get? key input') :
    (Shape.flattened name fields rest inner).decode (.request input) =
      (Shape.flattened name fields rest inner).decode (.request input') := by
  have hown := naming_of_agree hinput hinput' fun key hkey => h key (.inl hkey)
  have hpart := naming_of_agree hinput hinput' fun key hkey => h key (.inr hkey)
  -- a key that both name goes to the own field, and what is left for the part agrees as well
  have hothers :=
    Shape.decode_remainder_of_agree (fun key => !takesKey fields key) hpart inner hinner
  have hread : ∀ key value, fieldOf? fields key = none → takeField fields key value = none :=
    fun key value hkey => takeField_of_none hkey value
  rw [Shape.decode_flattened, Shape.decode_flattened, fillSlots_filter hread [] input,
    fillSlots_filter hread [] input', hown, hothers]

/-! ## Main result -/

/-- **What becomes of a record, whatever the request.** Of the entries that are refused the one with
the least key decides the error, in the order of the bytes of the keys; where none is refused, the
first missing field in the order of declaration decides it; and where none is missing, every field
holds what its entry gave, its default or nothing. A record with a flattened part decides its own
fields so and then decodes the part from the entries that are left. A key that names no field changes
nothing, unless the record is strict and has no flattened part; and neither does the order of the
members of the body or of query pairs with different keys. -/
theorem Shape.decode_record_outcome (name : String) (fields : List (Label × Shape)) (strict : Bool)
    (hkeys : (fields.map (·.1.key)).Nodup) (body : List (String × Json))
    (query path : List (String × String)) :
    let input := Fields.merge body query path
    (∃ own, (∀ other, Outcome fields strict input other ↔ other = own) ∧
      (Shape.record name fields strict).decode (.request input) = own.map .record) ∧
    (∃ own, (∀ other, Outcome fields false input other ↔ other = own) ∧ ∀ rest inner,
      (Shape.flattened name fields rest inner).decode (.request input) = own.bind fun held =>
        (inner.decode (.rest (remainder (fun key => !takesKey fields key) input))).map
          fun others => .record (held ++ [(rest, others)])) ∧
    (∀ body' query' path', let input' := Fields.merge body' query' path'
      ((∀ key, fieldOf? fields key ≠ none → Keyed.get? key input = Keyed.get? key input') →
        (Shape.record name fields false).decode (.request input) =
          (Shape.record name fields false).decode (.request input')) ∧
      ∀ rest inner partFields, inner.recordFields? = some partFields →
        (∀ key, fieldOf? fields key ≠ none ∨ fieldOf? partFields key ≠ none →
          Keyed.get? key input = Keyed.get? key input') →
        (Shape.flattened name fields rest inner).decode (.request input) =
          (Shape.flattened name fields rest inner).decode (.request input')) ∧
    (∀ bytes bytes' text text' parameters, (bytes = bytes' ∨ ∃ written written',
        Json.writtenMembers? bytes = some written ∧ Json.writtenMembers? bytes' = some written' ∧
          Keyed.Reordered written written') →
      Keyed.Reordered (queryPairs text) (queryPairs text') →
      gather bytes text parameters = gather bytes' text' parameters) := by
  intro input
  have hinput : Keyed.Ascending input := Fields.ascending_merge body query path
  refine ⟨⟨_, outcome_iff hkeys strict hinput, ?_⟩,
    ⟨_, outcome_iff hkeys false hinput, fun rest inner => ?_⟩, ?_, ?_⟩
  · exact Shape.decode_record_request name fields strict input
  · exact Shape.decode_flattened name fields rest inner input
  · intro body' query' path' input'
    have hinput' : Keyed.Ascending input' := Fields.ascending_merge body' query' path'
    refine ⟨fun h => ?_, fun rest inner partFields hinner h => ?_⟩
    · exact Shape.decode_record_of_agree name fields hinput hinput' h
    · exact Shape.decode_flattened_of_agree name rest fields hinner hinput hinput' h
  · intro bytes bytes' text text' parameters hbody hquery
    exact gather_eq_of_reordered hbody hquery parameters

/-- Of two values that do not decode the one under the lesser key is told, though it is optional and
its field is declared behind the other. -/
theorem Shape.decode_record_outcome_renamed :
    let fields : List (Label × Shape) := [({ key := "_id", aliases := ["id"] }, Sample.unsigned 16),
      Sample.field "displayName" (.option .string)]
    let input := Fields.merge [("displayName", .int 3)] [("id", "x"), ("page", "7")] []
    (fields.map (·.1.key)).Nodup ∧ ∃ own, Outcome fields false input own ∧
      own.map Datum.record = .error (.invalidType (.integer 3) "a string") := by
  intro fields input
  have hkeys : (fields.map (·.1.key)).Nodup := by decide
  obtain ⟨⟨own, houtcome, hdecode⟩, -⟩ := Shape.decode_record_outcome "Renamed" fields false hkeys
    [("displayName", .int 3)] [("id", "x"), ("page", "7")] []
  exact ⟨hkeys, own, (houtcome own).mpr rfl, hdecode.symm.trans rfl⟩

/-- What is said of least keys and of good values alone fails in two ways. A field that goes by two
names is refused where both are given, though every key names a field, every value decodes and no
field is missing. And behind the own fields of a record comes its flattened part: `limit` is the least
key with a bad value, yet `name` decides the error; and a part that is optional is none where its
value is bad. -/
theorem Shape.least_bad_value_need_not_decide :
    (let fields : List (Label × Shape) := [({ key := "_id", aliases := ["id"] }, Sample.unsigned 16),
      Sample.field "displayName" (.option .string)]
    let input : Fields := [("_id", .text "7"), ("id", .text "8")]
    gather [] (some "_id=7&id=8") [] = .ok input ∧
      (∀ key value, Keyed.get? key input = some value → ∃ field datum,
        fieldOf? fields key = some field ∧ field.2.decode (.ofField value) = .ok datum) ∧
      (∀ field ∈ fields, ¬ Missing fields input field) ∧
      (Shape.record "Renamed" fields false).decode (.request input) =
        .error (.duplicateField "_id")) ∧
    (let fields : List (Label × Shape) := [Sample.field "name" .string]
    let part : Shape := .record "Page" [Sample.field "limit" (Sample.unsigned 16)] false
    let input : Fields := [("limit", .text "x"), ("name", .json (.int 5))]
    let other : Fields := [("limit", .text "x"), ("name", .json (.string "n"))]
    gather (Utf8.encode "\x7b\"name\":5\x7d") (some "limit=x") [] = .ok input ∧
      gather (Utf8.encode "\x7b\"name\":\"n\"\x7d") (some "limit=x") [] = .ok other ∧
      (Sample.unsigned 16).decode (.text "x") = .error (.invalidValue (.text "x") "u16") ∧
      (Shape.flattened "Listed" fields "page" part).decode (.request input) =
        .error (.invalidType (.integer 5) "a string") ∧
      (Shape.flattened "Listed" fields "page" (.option part)).decode (.request other) =
        .ok (.record [("name", .text "n"), ("page", .none)])) := by
  refine ⟨?_, ?_⟩
  · intro fields input
    have hgather : gather [] (some "_id=7&id=8") [] = .ok input := by decide +kernel
    refine ⟨hgather, ?_, ?_, rfl⟩
    · intro key value hvalue
      have hinput : Keyed.Ascending input := by decide
      have hmem := hinput.get?_eq_some_iff.mp hvalue
      rcases List.mem_cons.mp hmem with heq | hmem
      · obtain ⟨rfl, rfl⟩ := Prod.mk.inj heq
        exact ⟨_, .integer 7, rfl, rfl⟩
      · obtain ⟨rfl, rfl⟩ := Prod.mk.inj (List.mem_singleton.mp hmem)
        exact ⟨_, .integer 8, rfl, rfl⟩
    · intro field hfield hmissing
      rcases List.mem_cons.mp hfield with rfl | hfield
      · exact hmissing.1 ⟨_, List.mem_cons_self, rfl⟩
      · obtain rfl := List.mem_singleton.mp hfield
        exact hmissing.2.2 .string rfl
  · intro fields part input other
    have hgather : gather (Utf8.encode "\x7b\"name\":5\x7d") (some "limit=x") [] = .ok input := by
      decide +kernel
    have hother : gather (Utf8.encode "\x7b\"name\":\"n\"\x7d") (some "limit=x") [] =
        .ok other := by
      decide +kernel
    exact ⟨hgather, hother, rfl, rfl, rfl⟩

end Rowgate.Input
