import Rowgate.Input.DecodeError
import Rowgate.Input.Fields
import Rowgate.Input.Shape
import Rowgate.Text.Real
/-
Sources: what a datum is decoded from.

A source is a JSON value, a text, or the fields of a whole request. Two more come to be while a
datum is decoded. What a tag, an untagged variant or a flattened part decides about is first kept,
and decoded from there: the value is then given away or lent, and some shapes tell the two apart.
The entries that no field of a record takes are the source of its flattened part, which takes from
them what it needs. The functions of this file are all that a shape knows of its source.
-/
set_option autoImplicit false

namespace Rowgate.Input

/-- How a value that was kept is handed on. -/
inductive Loan where
  | given
  | lent
deriving DecidableEq, Repr

/-- What a datum is decoded from. -/
inductive Source where
  | json (value : Json)
  | text (value : String)
  | request (fields : Fields)
  /-- a value that was kept until it was known what it is for -/
  | kept (loan : Loan) (value : Json)
  /-- the entries that no field of a record takes -/
  | rest (entries : List (String × Json))

namespace Source

def ofField : Field → Source
  | .json v => .json v
  | .text s => .text s

/-- How an error names the source. -/
def found : Source → Found
  | .json v | .kept _ v => .ofJson v
  | .text s => .text s
  | .request _ | .rest _ => .map

/-- The refusal of a source of the wrong kind. -/
def mismatch (source : Source) (expected : String) : DecodeError :=
  match source with
  | .rest _ => .notFlat
  | source => .invalidType source.found expected

/-- The source as a JSON value; texts are strings. -/
def toJson : Source → Json
  | .json v | .kept _ v => v
  | .text s => .string s
  | .request fields => .object (Keyed.mapValues Field.toJson fields)
  | .rest entries => .object entries

/-- Whether the source says that there is no value. -/
def isAbsent : Source → Bool
  | .json v | .kept _ v => v.isNull
  | .text s => s.isEmpty
  | .request _ | .rest _ => false

/-- What an option makes of what its inner shape made of the source. A flattened option holds nothing
where its inner shape fails. -/
def optional : Source → Except DecodeError Datum → Except DecodeError Datum
  | .rest _, .error _ => .ok .none
  | _, result => result.map .some

/-! ## Lists -/

/-- The items of a list. -/
def items? : Source → Option (List Json)
  | .json (.array values) | .kept _ (.array values) => some values
  | _ => none

/-- What is said where `count` items of a list of `total` were taken and no more are wanted. -/
def itemsLeft (source : Source) (total count : Nat) : DecodeError :=
  match source with
  | .kept _ _ => .invalidLength total
      (toString count ++ (if count = 1 then " element" else " elements") ++ " in sequence")
  | _ => .invalidLength total "fewer elements in array"

/-! ## Entries -/

/-- The entries of an object, in the order of their keys. -/
def entries? : Source → Option (List (String × Field))
  | .json (.object members) | .kept _ (.object members) | .rest members =>
    some (members.map fun (k, v) => (k, .json v))
  | .request fields => some fields
  | _ => none

/-- An item or the value of an entry, as a source. -/
def part : Source → Field → Source
  | .kept loan _, field => .kept loan field.toJson
  | .rest _, field => .kept .lent field.toJson
  | _, field => ofField field

/-- The entries that a record is shown. Of what is left over it is shown what names its fields. -/
def shown? (source : Source) (names : String → Bool) : Option (List (String × Field)) :=
  match source with
  | .rest _ => source.entries?.map fun entries => entries.filter fun (key, _) => names key
  | source => source.entries?

/-- The value of an entry that a record is shown, as a source. Of what is left over it is given
away. -/
def member : Source → Field → Source
  | .rest _, field => .kept .given field.toJson
  | source, field => source.part field

end Source

/-! ## Scalars -/

/-- An integer of a range, which a text may spell. -/
def decodeInteger (range : Text.IntegerRange) : Source → Except DecodeError Int
  | .json (.int n) | .kept _ (.int n) =>
    if range.contains n then .ok n else .error (.invalidValue (.integer n) range.name)
  | .text s =>
    match range.read? s with
    | some n => .ok n
    | none => .error (.invalidValue (.text s) range.name)
  | source => .error (source.mismatch range.name)

/-- An integer of a range, which no text spells and which is not kept. -/
def decodeWideInteger (range : Text.IntegerRange) : Source → Except DecodeError Int
  | .json (.int n) =>
    if range.contains n then .ok n else .error (.invalidValue (.integer n) range.name)
  | .kept _ _ | .rest _ => .error (.unsupported range.name)
  | source => .error (.invalidType source.found range.name)

/-- An integer of a range other than zero. Errors name the narrower expectation. -/
def decodeNonzero (range : Text.IntegerRange) (expected : String) (source : Source) :
    Except DecodeError Int := do
  match decodeInteger ⟨expected, range.least, range.greatest⟩ source with
  | .ok n => if n = 0 then .error (.invalidValue (.integer 0) expected) else .ok n
  | .error e => .error e

/-- A floating point number; an integer is taken for the nearest one. -/
def decodeFloat (f : FloatFormat) (expected : String) : Source → Except DecodeError (Binary f)
  | .json (.int n) | .kept _ (.int n) => .ok (Binary.ofInt n)
  | .json (.float x) | .kept _ (.float x) => .ok x.convert
  | .text s =>
    match Text.readFloat? f s with
    | some x => .ok x
    | none => .error (.invalidValue (.text s) expected)
  | source => .error (source.mismatch expected)

def decodeBool (expected : String) : Source → Except DecodeError Bool
  | .json (.bool b) | .kept _ (.bool b) => .ok b
  | .text "true" => .ok true
  | .text "false" => .ok false
  | .text s => .error (.invalidValue (.text s) expected)
  | source => .error (source.mismatch expected)

/-- A text, from a JSON string or as it came. -/
def decodeText (expected : String) : Source → Except DecodeError String
  | .json (.string s) | .kept _ (.string s) => .ok s
  | .text s => .ok s
  | source => .error (source.mismatch expected)

/-- A text of exactly one character. -/
def decodeChar (expected : String) (source : Source) : Except DecodeError Char := do
  let s ← decodeText expected source
  match s.toList with
  | [c] => .ok c
  | _ => .error (.invalidValue (.text s) expected)

/-- Nothing but the JSON null. What was kept and is given away may be an empty object as well, and
what is left over is always nothing. -/
def decodeNull (expected : String) : Source → Except DecodeError Unit
  | .json .null | .kept _ .null | .kept .given (.object []) | .rest _ => .ok ()
  | source => .error (.invalidType source.found expected)

/-- Nothing, as a record without fields. What was kept and is given away may be an empty list too. -/
def decodeUnitRecord (expected : String) : Source → Except DecodeError Unit
  | .kept .given (.array []) => .ok ()
  | source => decodeNull expected source

/-! ## Names -/

/-- The name of a case that a tag gives. A tag that was kept may be the place of the case. -/
def decodeTag (known : List String) : Source → Except DecodeError String
  | .text s | .json (.string s) | .kept _ (.string s) => .ok s
  | .kept _ (.int n) =>
    if n < 0 then .error (.invalidType (.integer n) "variant identifier")
    else match known[n.toNat]? with
      | some case => .ok case
      | none => .error
          (.invalidValue (.integer n) ("variant index 0 <= i < " ++ toString known.length))
  | source => .error (source.mismatch "variant identifier")

/-- A number that is the key of a member of a JSON object. -/
def decodeNumericKey (range : Text.IntegerRange) (key : String) : Except DecodeError Unit :=
  if key.toList.head?.any fun c => c.isDigit || c == '-' then
    match Json.scanNumeral? key.toList with
    | none => .error .malformedKey
    | some (numeral, behind) =>
      match numeral.value? with
      | none => .error .malformedKey
      | some v =>
        match decodeInteger range (.json v) with
        | .error e => .error (.inKey e (key.length - behind.length))
        | .ok _ => if behind.isEmpty then .ok () else .error .keyNotNumeric
  else .error .keyNotNumeric

/-- A key of a map. A number is read from the keys of a JSON value only. -/
def KeyShape.check (shape : KeyShape) (source : Source) (key : String) : Except DecodeError Unit :=
  match shape, source with
  | .text, _ => .ok ()
  | .integer range, .json _ => decodeNumericKey range key
  | .integer range, _ => .error (.invalidType (.text key) range.name)

end Rowgate.Input
