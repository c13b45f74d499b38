import Rowgate.Http.Endpoint
import Rowgate.Proofs.Members
import Rowgate.Proofs.Slots
import Rowgate.Sample.Shapes
/-
A request that is one object.

Where a request has neither a query nor parameters in its path, its fields are the members of its
body. Most shapes take them as they take the object itself: they see the same entries in the same
order, and where they see an object they do not expect, they find a map in both. The exceptions are
variants, which are told by a single member of an object but by none of a request, and maps whose
keys are numbers; an option or a newtype around one of them is one too.

The main result is `Shape.decode_body_eq_decode_object`: a request whose body spells an object
decodes to what the object decodes to, alone or as the value of a field, with the same error text.
-/
set_option autoImplicit false

namespace Rowgate.Input

/-- The shapes that take a whole request as they take an object. -/
def Shape.takesObjects : Shape → Bool
  | .option inner => inner.takesObjects
  | .newtype inner => inner.takesObjects
  | .variants _ _ => false
  | .map (.integer _) _ => false
  | _ => true

/-! ## The fields of one object -/

/-- The members of an object as the fields of a request. -/
def Fields.ofObject (members : List (String × Json)) : Fields := Keyed.mapValues .json members

theorem Fields.ofObject_toJson (members : List (String × Json)) :
    (Source.request (Fields.ofObject members)).toJson = .object members := by
  have hback : Keyed.mapValues Field.toJson (Fields.ofObject members) = members := by
    rw [Fields.ofObject, Keyed.mapValues, Keyed.mapValues, List.map_map]
    exact List.map_id members
  rw [Source.toJson, hback]

/-- Fields of a body alone are the members of its object, since these ascend. -/
theorem Fields.merge_object {members : List (String × Json)} (h : Keyed.Ascending members) :
    Fields.merge members [] [] = Fields.ofObject members :=
  (h.mapValues Field.json).ofPairs_eq

theorem gather_object {body : List UInt8} {members : List (String × Json)}
    (h : Json.parseBytes? body = some (.object members)) :
    gather body none [] = .ok (Fields.ofObject members) := by
  have hmerge := Fields.merge_object (Json.ascending_of_parseBytes? h)
  rw [gather, bodyMembers_of_object h]
  exact congrArg Except.ok hmerge

/-- A request that is not too long, without parameters in its path, has the fields of its body and
of its query. -/
theorem requestFields_of_length_le {request : Http.Request}
    (h : request.body.length ≤ maxBodyBytes) :
    Http.requestFields [] request =
      (gather request.body request.target.query []).mapError fun e => .decode e.message := by
  have hshort : ¬ maxBodyBytes < request.body.length := by omega
  show (if maxBodyBytes < request.body.length then
    (Except.error _ : Except Operation.Failure Fields) else _) = _
  rw [if_neg hshort]

/-! ## Decoding them -/

/-- The fields of an object decode as the object does. -/
theorem Shape.decode_ofObject (members : List (String × Json)) :
    ∀ shape : Shape, shape.takesObjects = true →
      shape.decode (.request (Fields.ofObject members)) = shape.decode (.json (.object members))
  | .option inner, h => by
    have ih := Shape.decode_ofObject members inner h
    rw [Shape.decode, Shape.decode, ih]
    rfl
  | .newtype inner, h => by
    have ih := Shape.decode_ofObject members inner h
    rw [Shape.decode, Shape.decode, ih]
  | .variants _ _, h => by contradiction
  | .map (.integer _) _, h => by contradiction
  | .json, _ => by
    rw [Shape.decode, Shape.decode, Fields.ofObject_toJson]
    rfl
  | .untagged _ _, _ => by
    rw [Shape.decode, Shape.decode, Fields.ofObject_toJson]
    rfl
  -- a shape of another kind looks at the entries or at the kind of the source, which are the same
  | .bool, _ | .integer _, _ | .wideInteger _, _ | .nonzero _, _ | .double, _ | .single, _
  | .char, _ | .string, _ | .unit, _ | .unitRecord _, _ | .sequence _, _ | .tuple _, _
  | .map .text _, _ | .record _ _ _, _ | .ignored, _ | .flattened _ _ _ _, _
  | .tagged _ _ _, _ => by
    unfold Shape.decode
    rfl

/-- A JSON object or a whole request, and its entries. -/
inductive Source.Gives : Source → Fields → Prop where
  | object (members : List (String × Json)) :
    Gives (.json (.object members)) (Fields.ofObject members)
  | request (fields : Fields) : Gives (.request fields) fields

/-- A record takes the entries that it is shown one by one and then completes what they gave. -/
theorem Shape.decode_record_shown {source : Source} {entries : List (String × Field)} (name : String)
    {fields : List (Label × Shape)} (strict : Bool) (hitems : source.items? = none)
    (h : source.shown? (takesKey fields) = some entries) :
    (Shape.record name fields strict).decode source = do
      let slots ← fillSlots (fun key value => decodeField fields key (source.member value))
        (strayField strict fields) [] entries
      return .record (← completeSlots slots fields) := by
  rw [Shape.decode, hitems, h]

/-- A record takes the items of a list in the order of its fields. -/
theorem Shape.decode_record_row {source : Source} {values : List Json} (name : String)
    (fields : List (Label × Shape)) (strict : Bool) (h : source.items? = some values) :
    (Shape.record name fields strict).decode source =
      (decodeRow source (withElements (Shape.record name fields strict).expecting fields.length)
        values.length fields values 0).map .record := by
  rw [Shape.decode, h]

theorem Shape.decode_record {source : Source} {entries : Fields} (h : source.Gives entries)
    (name : String) (fields : List (Label × Shape)) (strict : Bool) :
    (Shape.record name fields strict).decode source = do
      let slots ← fillSlots (takeField fields) (strayField strict fields) [] entries
      return .record (← completeSlots slots fields) := by
  cases h with
  | object members => exact Shape.decode_record_shown name strict rfl rfl
  | request => exact Shape.decode_record_shown name strict rfl rfl

/-- A record of a single field takes an entry of its key alone as the field takes the value. -/
theorem Shape.decode_single_entry (name : String) (label : Label) (shape : Shape) (strict : Bool)
    {source : Source} {value : Field} (h : source.Gives [(label.key, value)]) :
    (Shape.record name [(label, shape)] strict).decode source =
      (shape.decode (.ofField value)).map fun datum => .record [(label.key, datum)] := by
  have hread : takeField [(label, shape)] label.key value =
      some (label.key, shape.decode (.ofField value)) := by
    have haccepts : label.accepts label.key = true := by simp [Label.accepts]
    rw [takeField, decodeField, if_pos haccepts]
  rw [Shape.decode_record h, fillSlots, hread]
  cases shape.decode (.ofField value) with
  | error e => rfl
  | ok datum =>
    have hcomplete : completeSlots [(label.key, datum)] [(label, shape)] =
        .ok [(label.key, datum)] := by
      rw [completeSlots, List.lookup_cons_self]
      rfl
    show ((completeSlots [(label.key, datum)] [(label, shape)]).bind
      fun slots => .ok (Datum.record slots)) = _
    rw [hcomplete]
    rfl

/-- A record of a single field takes an object with its key as the field takes the value. -/
theorem Shape.decode_single_field (name : String) (label : Label) (shape : Shape) (strict : Bool)
    (value : Json) :
    (Shape.record name [(label, shape)] strict).decode (.json (.object [(label.key, value)])) =
      (shape.decode (.json value)).map fun datum => .record [(label.key, datum)] :=
  Shape.decode_single_entry name label shape strict (.object [(label.key, value)])

/-- **A body decodes as the object that it spells.** For every shape that takes a request as an
object and every body that spells one: a request with that body, without query and without
parameters in the path, decodes to what the object alone decodes to. Its handler is given the same
value or refuses the request with the text of the same error, as long as the body is not too long;
and the object gives the same as the value of the only field of a record. -/
theorem Shape.decode_body_eq_decode_object (shape : Shape) (hshape : shape.takesObjects = true)
    (body : List UInt8) (members : List (String × Json))
    (hbody : Json.parseBytes? body = some (.object members)) :
    (∃ fields, gather body none [] = .ok fields ∧
      shape.decode (.request fields) = shape.decode (.json (.object members))) ∧
    (∀ (ι ο : Type) (codec : Http.Codec ι ο) (ofDatum : Datum → ι),
      (∀ fields, codec.read fields = (shape.decode (.request fields)).map ofDatum) →
      ∀ request : Http.Request, request.body = body → request.target.query = none →
        body.length ≤ maxBodyBytes →
        codec.ofRequest [] request =
          ((shape.decode (.json (.object members))).map ofDatum).mapError
            fun e => .decode e.message) ∧
    (∀ (outer : List UInt8) (name : String) (label : Label) (strict : Bool),
      Json.parseBytes? outer = some (.object [(label.key, .object members)]) →
      ∃ fields, gather outer none [] = .ok fields ∧
        (Shape.record name [(label, shape)] strict).decode (.request fields) =
          (shape.decode (.json (.object members))).map
            fun datum => .record [(label.key, datum)]) := by
  have hdecode := Shape.decode_ofObject members shape hshape
  refine ⟨⟨_, gather_object hbody, hdecode⟩, ?_, ?_⟩
  · intro ι ο codec ofDatum hread request hrequest hquery hlength
    have hfields : Http.requestFields [] request = .ok (Fields.ofObject members) := by
      rw [requestFields_of_length_le (hrequest ▸ hlength), hquery, hrequest, gather_object hbody]
      rfl
    rw [Http.Codec.ofRequest, hfields]
    show codec.input (Fields.ofObject members) = _
    rw [Http.Codec.input, hread, hdecode]
  · intro outer name label strict houter
    refine ⟨_, gather_object houter, ?_⟩
    rw [Shape.decode_ofObject _ (Shape.record name [(label, shape)] strict) rfl]
    exact Shape.decode_single_field name label shape strict (.object members)

/-- An optional strict record refuses the number where its least key wants a truth value; the list
and the unknown key behind it are not reached. -/
theorem Shape.decode_body_eq_decode_object_strict :
    let shape : Shape := .option (.record "Listed"
      [Sample.field "b" (.sequence (.option (Sample.signed 64))), Sample.field "a" .bool] true)
    let body := Utf8.encode "\x7b\"b\": [1, null], \"c\": 0, \"a\": 12\x7d"
    let members := [("a", Json.int 12), ("b", .array [.int 1, .null]), ("c", .int 0)]
    shape.takesObjects = true ∧ Json.parseBytes? body = some (.object members) ∧
      ∃ fields, gather body none [] = .ok fields ∧
        shape.decode (.request fields) = .error (.invalidType (.integer 12) "a boolean") := by
  intro shape body members
  have hbody : Json.parseBytes? body = some (.object members) := by decide +kernel
  obtain ⟨⟨fields, hfields, hdecode⟩, -⟩ :=
    Shape.decode_body_eq_decode_object shape rfl body members hbody
  refine ⟨rfl, hbody, fields, hfields, ?_⟩
  rw [hdecode]
  rfl

end Rowgate.Input
