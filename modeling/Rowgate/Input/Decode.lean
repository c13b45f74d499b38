import Rowgate.Input.Source
/-
Decoding: from a source to a datum of a shape.

A JSON value has to be of the kind that the shape names; a text is parsed where the shape is a number
or a truth value, and an empty text where the shape is an option is the absence of a value. A whole
request is read as an object of its fields, each with its own source. Records take their entries in
the order of the keys, so the least key with a bad value decides the error; only when all of them were
read does an absent field matter, the first in the order of declaration. A flattened part is decoded
behind the fields of its record, from the entries that these leave.
-/
set_option autoImplicit false

namespace Rowgate.Input

/-- The outcome of decoding. -/
abbrev Decoded := Except DecodeError Datum

/-! ## Records -/

/-- What the fields read so far hold, by the key of the field. -/
abbrev Slots := List (String × Datum)

/-- Reads entries in order. `read` tells which field takes an entry and what it makes of it, and
`stray` judges an entry that no field takes. No field takes two entries. -/
def fillSlots (read : String → Field → Option (String × Decoded))
    (stray : String → Except DecodeError Unit) :
    Slots → List (String × Field) → Except DecodeError Slots
  | slots, [] => .ok slots
  | slots, (key, field) :: rest =>
    match read key field with
    | none => do
      stray key
      fillSlots read stray slots rest
    | some (name, value) =>
      -- a second entry is refused without a look at its value
      if (slots.lookup name).isSome then .error (.duplicateField name)
      else do
        let datum ← value
        fillSlots read stray ((name, datum) :: slots) rest

/-- The fields in the order of their declaration, each with what it holds or its default. -/
def completeSlots (slots : Slots) : List (Label × Shape) → Except DecodeError Slots
  | [] => .ok []
  | (label, shape) :: rest =>
    match ((slots.lookup label.key).or label.fallback).or shape.whenAbsent with
    | none => .error (.missingField label.key)
    | some datum => do
      let others ← completeSlots slots rest
      return (label.key, datum) :: others

/-- Refuses the entry of an unknown key if the record is strict. -/
def strayField (strict : Bool) (fields : List (Label × Shape)) (key : String) :
    Except DecodeError Unit :=
  if strict then .error (.unknownField key (fields.flatMap (·.1.names))) else .ok ()

/-- Whether some field goes by the key. -/
def takesKey (fields : List (Label × Shape)) (key : String) : Bool :=
  fields.any fun (label, _) => label.accepts key

/-- The entries whose keys `keep` accepts, as JSON values. -/
def remainder (keep : String → Bool) (entries : List (String × Field)) : List (String × Json) :=
  (entries.filter fun (key, _) => keep key).map fun (key, field) => (key, field.toJson)

/-- What is expected of a list with one item for each of `count` fields. -/
def withElements (name : String) (count : Nat) : String :=
  name ++ " with " ++ toString count ++ (if count = 1 then " element" else " elements")

/-! ## Shapes -/

mutual

/-- The datum of a shape that a source gives. -/
def Shape.decode : Shape → Source → Decoded
  | .bool, source => (decodeBool Shape.bool.expecting source).map .bool
  | .integer range, source => (decodeInteger range source).map .integer
  | .wideInteger range, source => (decodeWideInteger range source).map .integer
  | .nonzero range, source =>
    (decodeNonzero range (Shape.nonzero range).expecting source).map .integer
  | .double, source => (decodeFloat .double Shape.double.expecting source).map .double
  | .single, source => (decodeFloat .single Shape.single.expecting source).map .single
  | .char, source => (decodeChar Shape.char.expecting source).map .char
  | .string, source => (decodeText Shape.string.expecting source).map .text
  | .unit, source => (decodeNull Shape.unit.expecting source).map fun _ => .unit
  | .unitRecord name, source =>
    (decodeUnitRecord (Shape.unitRecord name).expecting source).map fun _ => .unit
  | .option inner, source =>
    if source.isAbsent then .ok .none else source.optional (inner.decode source)
  | .newtype inner, source => (inner.decode source).map .wrapped
  | .sequence item, source =>
    match source.items? with
    | some values => (values.mapM fun v => item.decode (source.part (.json v))).map .list
    | none => .error (source.mismatch (Shape.sequence item).expecting)
  | .tuple items, source =>
    let expected := (Shape.tuple items).expecting
    match source.items? with
    | some values => (decodeTuple source expected values.length items values 0).map .list
    | none => .error (source.mismatch expected)
  | .map key item, source =>
    match source.entries? with
    | some entries => do
      let entries ← entries.mapM fun (k, field) => do
        key.check source k
        return (k, ← item.decode (source.part field))
      return .entries entries
    | none => .error (source.mismatch (Shape.map key item).expecting)
  | .record name fields strict, source =>
    let expected := (Shape.record name fields strict).expecting
    match source.items?, source.shown? (takesKey fields) with
    | some values, _ =>
      (decodeRow source (withElements expected fields.length) values.length fields values 0).map
        .record
    | none, some entries => do
      let read := fun key field => decodeField fields key (source.member field)
      let slots ← fillSlots read (strayField strict fields) [] entries
      return .record (← completeSlots slots fields)
    | none, none => .error (source.mismatch expected)
  | .variants name cases, source =>
    let known := cases.map (·.1)
    match source with
    | .text case | .json (.string case) | .kept _ (.string case) =>
      decodeCase name known cases case none
    | .json (.object [(case, payload)]) =>
      decodeCase name known cases case (some (.json payload))
    | .kept loan (.object [(case, payload)]) =>
      decodeCase name known cases case (some (.kept loan payload))
    | .json (.object _) | .kept _ (.object _) =>
      .error (.invalidValue .map "map with a single key")
    | .rest entries =>
      -- other entries may stand beside the one that names a case
      match entries.find? fun entry => known.contains entry.1 with
      | some (case, payload) => decodeCase name known cases case (some (.kept .given payload))
      | none => .error (.noFlatVariant name)
    | .request _ => .error (.invalidType .map (Shape.variants name cases).expecting)
    | source => .error (.invalidType source.found "string or map")
  | .json, source => .ok (.json source.toJson)
  | .ignored, _ => .ok .ignored
  | .flattened name fields rest inner, source =>
    match source.entries? with
    | some entries => do
      let read := fun key field => decodeField fields key (source.part field)
      let slots ← fillSlots read (fun _ => .ok ()) [] entries
      -- a missing field is told before the part is looked at
      let own ← completeSlots slots fields
      let others ← inner.decode (.rest (remainder (fun key => !takesKey fields key) entries))
      return .record (own ++ [(rest, others)])
    | none => .error (source.mismatch (Shape.flattened name fields rest inner).expecting)
  | .tagged name tag cases, source =>
    let known := cases.map (·.1)
    match source.items?, source.entries? with
    | some [], _ => .error (.missingField tag)
    | some (first :: items), _ => do
      let case ← decodeTag known (source.part (.json first))
      decodeTagged known cases case (.array items)
    | none, some entries =>
      match entries.lookup tag with
      | some field => do
        let case ← decodeTag known (source.part field)
        decodeTagged known cases case (.object (remainder (· != tag) entries))
      | none => .error (.missingField tag)
    | none, none => .error (source.mismatch (Shape.tagged name tag cases).expecting)
  | .untagged name cases, source =>
    match decodeFirst cases source.toJson with
    | some datum => .ok datum
    | none => .error (.noVariant name)

/-- One item for each shape; `total` is the length of the whole list and `i` the place in it. -/
def decodeTuple (source : Source) (expected : String) (total : Nat) :
    List Shape → List Json → Nat → Except DecodeError (List Datum)
  | [], [], _ => .ok []
  | [], _ :: _, i => .error (source.itemsLeft total i)
  | _ :: _, [], i => .error (.invalidLength i expected)
  | shape :: shapes, v :: values, i => do
    let datum ← shape.decode (source.part (.json v))
    return datum :: (← decodeTuple source expected total shapes values (i + 1))

/-- One item for each field, in the order of declaration. -/
def decodeRow (source : Source) (expected : String) (total : Nat) :
    List (Label × Shape) → List Json → Nat → Except DecodeError Slots
  | [], [], _ => .ok []
  | [], _ :: _, i => .error (source.itemsLeft total i)
  | (label, _) :: fields, [], i => do
    match label.fallback with
    | some datum =>
      return (label.key, datum) :: (← decodeRow source expected total fields [] (i + 1))
    | none => .error (.invalidLength i expected)
  | (label, shape) :: fields, v :: values, i => do
    let datum ← shape.decode (source.part (.json v))
    return (label.key, datum) :: (← decodeRow source expected total fields values (i + 1))

/-- The field that takes a key, and what it makes of the value. -/
def decodeField : List (Label × Shape) → String → Source → Option (String × Decoded)
  | [], _, _ => none
  | (label, shape) :: fields, key, value =>
    if label.accepts key then some (label.key, shape.decode value)
    else decodeField fields key value

/-- The case of the given name, with its payload if one was given. -/
def decodeCase (name : String) (known : List String) :
    List (String × Variant) → String → Option Source → Decoded
  | [], case, _ => .error (.unknownVariant case known)
  | (label, variant) :: cases, case, payload =>
    if label = case then
      (variant.decode (name ++ "::" ++ case) payload).map (.variant case)
    else decodeCase name known cases case payload

/-- The payload of a case; `path` is the full name of the case. -/
def Variant.decode : Variant → String → Option Source → Decoded
  | .unit, _, none => .ok .unit
  | .unit, _, some source => (decodeNull "unit" source).map fun _ => .unit
  | .newtype inner, _, some source => inner.decode source
  | .newtype _, _, none => .error (.invalidType .unitVariant "newtype variant")
  | .tuple items, path, payload =>
    let expected := "tuple variant " ++ path
    match payload with
    | none => .error (.invalidType .unitVariant "tuple variant")
    -- an empty list is taken for null, but not if it was kept
    | some (.json (.array [])) => .error (.invalidType .null expected)
    | some source =>
      match source.items? with
      | some values =>
        (decodeTuple source (withElements expected items.length) values.length items values 0).map
          .list
      | none => .error (.invalidType source.found "tuple variant")
  | .record fields, path, payload =>
    let expected := "struct variant " ++ path
    match payload with
    | none => .error (.invalidType .unitVariant "struct variant")
    -- only what was kept may list the fields in a row
    | some (.kept loan (.array values)) =>
      (decodeRow (.kept loan (.array values)) (withElements expected fields.length) values.length
        fields values 0).map .record
    | some source =>
      match source.entries? with
      | none => .error (.invalidType source.found "struct variant")
      | some entries => do
        let read := fun key field => decodeField fields key (source.part field)
        let slots ← fillSlots read (fun _ => .ok ()) [] entries
        return .record (← completeSlots slots fields)

/-- The case of the given tag, from what stands beside the tag. -/
def decodeTagged (known : List String) : List (String × Shape) → String → Json → Decoded
  | [], case, _ => .error (.unknownVariant case known)
  | (label, shape) :: cases, case, v =>
    if label = case then (shape.decode (.kept .given v)).map (.variant case)
    else decodeTagged known cases case v

/-- The first case that fits. -/
def decodeFirst : List (String × Shape) → Json → Option Datum
  | [], _ => none
  | (label, shape) :: cases, v =>
    match shape.decode (.kept .lent v) with
    | .ok datum => some (.variant label datum)
    | .error _ => decodeFirst cases v

end

end Rowgate.Input
