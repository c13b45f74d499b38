import Rowgate.Proofs.Responses
import Rowgate.Proofs.TextValues
/-
Variants as whole inputs.

An object spells a variant by its only member: the key names a case, and the value is the payload of
it, null for a case without one (`Variant.Takes`). That is how a variant is read from a value of a
field, under options and newtypes too. A whole request is another source than the object in its body:
the fields of it are a map to every shape, and a variant takes no map. So no request decodes to a
variant, whatever its body spells, and a handler with such an input is never invoked.

The main result is `Shape.variants_not_received`.
-/
set_option autoImplicit false

namespace Rowgate.Input

/-! ## What an object spells -/

/-- What a case makes of the value that stands behind its name. -/
inductive Variant.Takes : Variant → Json → Datum → Prop where
  | unit : Takes .unit .null .unit
  | newtype {inner : Shape} {value : Json} {datum : Datum}
    (hvalue : inner.decode (.json value) = .ok datum) : Takes (.newtype inner) value datum
  /-- a list is not empty and has an item for each shape -/
  | tuple {items : List Shape} {values : List Json} {data : List Datum} (hne : values ≠ [])
    (hlength : items.length = values.length)
    (hvalues : List.Forall₂ (fun item datum => item.1.decode (.json item.2) = .ok datum)
      (items.zip values) data) : Takes (.tuple items) (.array values) (.list data)
  /-- an object is read as by a record that is not strict, of whatever name -/
  | record {name : String} {fields : List (Label × Shape)} {members : List (String × Json)}
    {datum : Datum}
    (hmembers : (Shape.record name fields false).decode (.json (.object members)) = .ok datum) :
    Takes (.record fields) (.object members) datum

theorem decodeTuple_eq_ok_iff {whole : Json} {expected : String} {total : Nat}
    {items : List Shape} {values : List Json} {i : Nat} {data : List Datum} :
    decodeTuple (.json whole) expected total items values i = .ok data ↔
      items.length = values.length ∧
      List.Forall₂ (fun item datum => item.1.decode (.json item.2) = .ok datum)
        (items.zip values) data := by
  induction items generalizing values i data with
  | nil =>
    cases values with
    | nil => simp [decodeTuple, eq_comm]
    | cons value values => simp [decodeTuple]
  | cons item items ih =>
    cases values with
    | nil => simp [decodeTuple]
    | cons value values =>
      rw [decodeTuple, bind_eq_ok]
      simp only [bind_eq_ok, ih, List.zip_cons_cons, List.forall₂_cons_left_iff, List.length_cons,
        Nat.add_right_cancel_iff]
      constructor
      · rintro ⟨datum, hdatum, rest, ⟨hlength, hrest⟩, h⟩
        exact ⟨hlength, datum, rest, hdatum, hrest, (Except.ok.inj h).symm⟩
      · rintro ⟨hlength, datum, rest, hdatum, hrest, rfl⟩
        exact ⟨datum, hdatum, rest, ⟨hlength, hrest⟩, rfl⟩

theorem decodeNull_json_iff {expected : String} {value : Json} :
    decodeNull expected (.json value) = .ok () ↔ value = .null := by
  cases value <;> simp [decodeNull]

/-- A list is read item by item, unless it is empty. -/
theorem Variant.decode_tuple (items : List Shape) (path : String) (value : Json)
    (values : List Json) :
    (Variant.tuple items).decode path (some (.json (.array (value :: values)))) =
      (decodeTuple (.json (.array (value :: values)))
        (withElements ("tuple variant " ++ path) items.length) (value :: values).length items
        (value :: values) 0).map .list := by
  rw [Variant.decode]
  · rfl
  · simp

/-- An object is read by the fields of a case as by those of a record. -/
theorem Variant.decode_record (fields : List (Label × Shape)) (path name : String)
    (members : List (String × Json)) :
    (Variant.record fields).decode path (some (.json (.object members))) =
      (Shape.record name fields false).decode (.json (.object members)) := by
  rw [Shape.decode_record (.object members), Variant.decode]
  · rfl
  · simp

/-- **A case reads the payload that it takes.** -/
theorem Variant.decode_eq_ok_iff {variant : Variant} {path : String} {payload : Json}
    {datum : Datum} :
    variant.decode path (some (.json payload)) = .ok datum ↔ variant.Takes payload datum := by
  constructor
  · intro h
    cases variant with
    | unit =>
      rw [Variant.decode] at h
      obtain ⟨_, hnull, rfl⟩ := map_eq_ok.mp h
      obtain rfl := decodeNull_json_iff.mp hnull
      exact .unit
    | newtype inner =>
      rw [Variant.decode] at h
      exact .newtype h
    | tuple items =>
      cases payload with
      | array values =>
        cases values with
        | nil => cases h
        | cons value values =>
          rw [Variant.decode_tuple] at h
          obtain ⟨data, hdata, rfl⟩ := map_eq_ok.mp h
          obtain ⟨hlength, hvalues⟩ := decodeTuple_eq_ok_iff.mp hdata
          exact .tuple (by simp) hlength hvalues
      | _ => cases h
    | record fields =>
      cases payload with
      | object members =>
        rw [Variant.decode_record fields path ""] at h
        exact .record h
      | _ => cases h
  · intro h
    cases h with
    | unit => rfl
    | newtype hvalue => rw [Variant.decode, hvalue]
    | @tuple items values data hne hlength hvalues =>
      obtain ⟨value, rest, rfl⟩ := List.exists_cons_of_ne_nil hne
      rw [Variant.decode_tuple, decodeTuple_eq_ok_iff.mpr ⟨hlength, hvalues⟩]
      rfl
    | record hmembers => rw [Variant.decode_record, hmembers]

/-- The first case of the name is read. -/
theorem decodeCase_eq_ok_iff {name : String} {known : List String}
    {cases : List (String × Variant)} {case : String} {payload : Json} {datum : Datum} :
    decodeCase name known cases case (some (.json payload)) = .ok datum ↔
      ∃ variant made, cases.lookup case = some variant ∧ variant.Takes payload made ∧
        datum = .variant case made := by
  induction cases with
  | nil => simp [decodeCase]
  | cons first cases ih =>
    obtain ⟨label, variant⟩ := first
    rw [decodeCase]
    by_cases hlabel : label = case
    · subst hlabel
      rw [if_pos rfl, map_eq_ok, List.lookup_cons_self]
      constructor
      · rintro ⟨made, hmade, rfl⟩
        exact ⟨variant, made, rfl, Variant.decode_eq_ok_iff.mp hmade, rfl⟩
      · rintro ⟨_, made, ⟨⟩, htakes, rfl⟩
        exact ⟨made, Variant.decode_eq_ok_iff.mpr htakes, rfl⟩
    · have hother : (case == label) = false := beq_eq_false_iff_ne.mpr (Ne.symm hlabel)
      rw [if_neg hlabel, ih, List.lookup_cons, hother]

/-- An object of one member spells the case that its key names, and no other object spells any. -/
theorem Shape.decode_variants_object {name : String} {cases : List (String × Variant)}
    {members : List (String × Json)} {datum : Datum} :
    (Shape.variants name cases).decode (.json (.object members)) = .ok datum ↔
      ∃ case variant payload made, members = [(case, payload)] ∧
        cases.lookup case = some variant ∧ variant.Takes payload made ∧
        datum = .variant case made := by
  match members with
  | [] => simp [Shape.decode]
  | [(case, payload)] =>
    have hcase : (Shape.variants name cases).decode (.json (.object [(case, payload)])) =
        decodeCase name (cases.map (·.1)) cases case (some (.json payload)) := by
      rw [Shape.decode]
    rw [hcase, decodeCase_eq_ok_iff]
    constructor
    · rintro ⟨variant, made, hvariant, htakes, rfl⟩
      exact ⟨case, variant, payload, made, rfl, hvariant, htakes, rfl⟩
    · rintro ⟨_, variant, _, made, ⟨⟩, hvariant, htakes, rfl⟩
      exact ⟨variant, made, hvariant, htakes, rfl⟩
  | _ :: _ :: _ => simp [Shape.decode]

/-- Wrappers change nothing about it, since an object is never the absence of a value. -/
theorem Shape.decode_variants_under {name : String} {cases : List (String × Variant)}
    (wrappers : List Wrapper) {members : List (String × Json)} {datum : Datum} :
    ((Shape.variants name cases).under wrappers).decode (.json (.object members)) = .ok datum ↔
      ∃ case variant payload made, members = [(case, payload)] ∧
        cases.lookup case = some variant ∧ variant.Takes payload made ∧
        datum = (Datum.variant case made).under wrappers := by
  have hrest : ∀ entries, Source.json (.object members) ≠ .rest entries := nofun
  rw [Shape.decode_under_present _ (.inl rfl) hrest, map_eq_ok]
  constructor
  · rintro ⟨inner, hinner, rfl⟩
    obtain ⟨case, variant, payload, made, hmembers, hvariant, htakes, rfl⟩ :=
      Shape.decode_variants_object.mp hinner
    exact ⟨case, variant, payload, made, hmembers, hvariant, htakes, rfl⟩
  · rintro ⟨case, variant, payload, made, hmembers, hvariant, htakes, rfl⟩
    exact ⟨_, Shape.decode_variants_object.mpr
      ⟨case, variant, payload, made, hmembers, hvariant, htakes, rfl⟩, rfl⟩

/-! ## What a request gives -/

/-- The fields of a request are a map, which no variant takes. -/
theorem Shape.decode_variants_request (name : String) (cases : List (String × Variant))
    (wrappers : List Wrapper) (fields : Fields) :
    ((Shape.variants name cases).under wrappers).decode (.request fields) =
      .error (.invalidType .map ("enum " ++ name)) := by
  have hrest : ∀ entries, Source.request fields ≠ .rest entries := nofun
  rw [Shape.decode_under_present _ (.inl rfl) hrest, Shape.decode]
  rfl

/-- The text of the refusal. -/
def noMapFor (name : String) : String := "invalid type: map, expected enum " ++ name

theorem message_noMapFor (name : String) :
    (DecodeError.invalidType .map ("enum " ++ name)).message = noMapFor name := by
  have htext : (DecodeError.invalidType .map ("enum " ++ name)).message =
      "invalid type: map, expected " ++ ("enum " ++ name) := rfl
  rw [htext, ← String.append_assoc]
  rfl

theorem Shape.receive_variants (name : String) (cases : List (String × Variant))
    (wrappers : List Wrapper) {body : List UInt8} {query : Option String}
    {path : List (String × String)} {fields : Fields} (h : gather body query path = .ok fields) :
    ((Shape.variants name cases).under wrappers).receive body query path =
      .error (.decode (noMapFor name)) := by
  rw [Shape.receive_of_gather h, Shape.decode_variants_request, ← message_noMapFor]
  rfl

end Rowgate.Input

namespace Rowgate.Http

open Input (Datum Shape Variant Wrapper)

/-- A request for a variant is refused with a reason, which is this one if its fields can be read. -/
theorem Codec.ofRequest_variants {ι ο : Type} {codec : Codec ι ο} {name : String}
    {cases : List (String × Variant)} {wrappers : List Wrapper} {ofDatum : Datum → ι}
    (hread : ∀ fields, codec.read fields =
      (((Shape.variants name cases).under wrappers).decode (.request fields)).map ofDatum)
    (captures : Captures) (request : Request) :
    ∃ reason, codec.ofRequest captures request = .error (.decode reason) ∧
      ∀ fields, requestFields captures request = .ok fields → reason = Input.noMapFor name := by
  cases hfields : requestFields captures request with
  | error failure =>
    obtain ⟨reason, rfl⟩ := Decoding.fields captures request failure hfields
    exact ⟨reason, by rw [Codec.ofRequest, hfields]; rfl, nofun⟩
  | ok fields =>
    -- the fields were read, so what refuses them is the variant itself
    refine ⟨Input.noMapFor name, ?_, fun _ _ => rfl⟩
    rw [Codec.ofRequest, hfields, ← Input.message_noMapFor]
    show codec.input fields = _
    rw [Codec.input, hread, Shape.decode_variants_request]
    rfl

end Rowgate.Http

namespace Rowgate.Input

/-! ## Main result -/

/-- **No request decodes to a variant.** An object spells a variant, under any options and newtypes,
exactly if its only member is a payload behind the name of a case that takes it. As the value of the
only field of a record it is taken so. As a whole input a variant is refused with the same text by
every request whose fields can be gathered, that whose body spells the object among them; and a
handler for it refuses every request, with that text if the fields can be read, and is never
invoked. -/
theorem Shape.variants_not_received (name : String) (cases : List (String × Variant))
    (wrappers : List Wrapper) :
    let shape := (Shape.variants name cases).under wrappers
    let reason := "invalid type: map, expected enum " ++ name
    (∀ members datum, shape.decode (.json (.object members)) = .ok datum ↔
      ∃ case variant payload made, members = [(case, payload)] ∧
        cases.lookup case = some variant ∧ variant.Takes payload made ∧
        datum = (Datum.variant case made).under wrappers) ∧
    (∀ body query path fields, gather body query path = .ok fields →
      shape.receive body query path = .error (.decode reason)) ∧
    (∀ (body : List UInt8) members datum, Json.parseBytes? body = some (.object members) →
      shape.decode (.json (.object members)) = .ok datum →
      shape.receive body none [] = .error (.decode reason) ∧
      ∀ (outer : List UInt8) (record : String) (label : Label) (strict : Bool),
        Json.parseBytes? outer = some (.object [(label.key, .object members)]) →
        (Shape.record record [(label, shape)] strict).receive outer none [] =
          .ok (.record [(label.key, datum)])) ∧
    ∀ (m : Type → Type) (ι ο : Type) [Monad m] [Inhabited ο] (codec : Http.Codec ι ο)
      (ofDatum : Datum → ι),
      (∀ fields, codec.read fields = (shape.decode (.request fields)).map ofDatum) →
      ∀ (handler : Handler m ι ο) (captures : Http.Captures) (request : Http.Request)
        (log : List (Operation.Invocation ι ο)),
        ∃ text, (∀ fields, Http.requestFields captures request = .ok fields → text = reason) ∧
          (Http.handle codec handler.recorded captures request).run log =
            pure (Http.refusal 400 "invalid_argument" ("invalid request: " ++ text), log) := by
  intro shape reason
  have hreceive : ∀ body query path fields, gather body query path = .ok fields →
      shape.receive body query path = .error (.decode reason) :=
    fun body query path fields h => Shape.receive_variants name cases wrappers h
  refine ⟨fun members datum => Shape.decode_variants_under wrappers, hreceive,
    fun body members datum hbody hdatum => ⟨?_, ?_⟩, ?_⟩
  · exact hreceive _ _ _ _ (gather_object hbody)
  · intro outer record label strict houter
    rw [Shape.receive_of_gather (gather_object houter),
      Shape.decode_ofObject _ (Shape.record record [(label, shape)] strict) rfl,
      Shape.decode_single_field, hdatum]
    rfl
  · intro m ι ο _ _ codec ofDatum hread handler captures request log
    obtain ⟨text, htext, hfields⟩ := Http.Codec.ofRequest_variants hread captures request
    exact ⟨text, hfields, by rw [Http.handle_error htext]; rfl⟩

/-- A rectangle in the body of a request, and the same rectangle as an optional field. -/
theorem Shape.variants_not_received_rectangle :
    let body := Utf8.encode "\x7b\"Rect\": \x7b\"w\": 1, \"h\": 2\x7d\x7d"
    let outer := Utf8.encode "\x7b\"v\": \x7b\"Rect\": \x7b\"w\": 1, \"h\": 2\x7d\x7d\x7d"
    let rectangle : Datum :=
      .some (.variant "Rect" (.record [("w", .integer 1), ("h", .integer 2)]))
    let shape := Shape.option Sample.figure
    shape.decode (.json (.object [("Rect", .object [("h", .int 2), ("w", .int 1)])])) =
        .ok rectangle ∧
      shape.receive body none [] =
        .error (.decode "invalid type: map, expected enum Shape") ∧
      (Shape.record "One" [({ key := "v" }, shape)] false).receive outer none [] =
        .ok (.record [("v", rectangle)]) := by
  intro body outer rectangle shape
  let members : List (String × Json) := [("Rect", .object [("h", .int 2), ("w", .int 1)])]
  have hbody : Json.parseBytes? body = some (.object members) := by decide +kernel
  have houter : Json.parseBytes? outer = some (.object [("v", .object members)]) := by
    decide +kernel
  obtain ⟨hspells, -, hrefused, -⟩ := Shape.variants_not_received "Shape"
    [("Point", .unit), ("Circle", .newtype (Sample.signed 64)),
      ("Line", .tuple [Sample.signed 64, Sample.signed 64]),
      ("Rect", .record [Sample.field "w" (Sample.signed 64), Sample.field "h" (Sample.signed 64)])]
    [.option]
  have htakes : (Variant.record [Sample.field "w" (Sample.signed 64),
      Sample.field "h" (Sample.signed 64)]).Takes (.object [("h", .int 2), ("w", .int 1)])
      (.record [("w", .integer 1), ("h", .integer 2)]) := @Variant.Takes.record "Rect" _ _ _ rfl
  have hrectangle : shape.decode (.json (.object members)) = .ok rectangle :=
    (hspells members rectangle).mpr ⟨_, _, _, _, rfl, rfl, htakes, rfl⟩
  obtain ⟨hreceive, hfield⟩ := hrefused body members rectangle hbody hrectangle
  exact ⟨hrectangle, hreceive, hfield outer "One" { key := "v" } false houter⟩

end Rowgate.Input
