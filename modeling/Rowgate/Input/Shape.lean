import Rowgate.Json.Value
import Rowgate.Keyed
import Rowgate.Text.Integer
/-
Shapes: what an input is expected to be.

A shape describes a type of inputs, and a datum is a value of such a type. Scalars, options,
sequences, maps, records and variants cover the usual ones. A record can also take the fields of
another record as its own, a variant can be told by a tag among its fields, or by being the first
whose fields fit.
-/
set_option autoImplicit false

namespace Rowgate.Input

/-- A decoded input. -/
inductive Datum where
  | bool (value : Bool)
  | integer (value : Int)
  | double (value : Double)
  | single (value : Binary .single)
  | char (value : Char)
  | text (value : String)
  | unit
  | none
  | some (value : Datum)
  | wrapped (value : Datum)
  | list (items : List Datum)
  | entries (entries : List (String × Datum))
  | record (fields : List (String × Datum))
  | variant (name : String) (payload : Datum)
  | json (value : Json)
  | ignored
deriving Inhabited

namespace Datum

/-- What a record holds under a key; a datum without it holds nothing. -/
def field (key : String) : Datum → Datum
  | .record fields => (fields.lookup key).getD .unit
  | _ => .unit

/-- The text that a datum is, possibly as an option; any other is the empty text. -/
def asText : Datum → String
  | .text s | .some (.text s) => s
  | _ => ""

/-- The integer that a datum is, possibly as an option. -/
def asInteger? : Datum → Option Int
  | .integer n | .some (.integer n) => Option.some n
  | _ => Option.none

/-- The text that a datum is, possibly as an option. -/
def asText? : Datum → Option String
  | .text s | .some (.text s) => Option.some s
  | _ => Option.none

/-- The natural number that a datum is. -/
def asNat (d : Datum) : Nat := (d.asInteger?.getD 0).toNat

end Datum

/-- The keys by which a field of a record goes, and its value where it is absent, if it has a
default. -/
structure Label where
  key : String
  aliases : List String := []
  fallback : Option Datum := .none

/-- Whether a key names the field. -/
def Label.accepts (label : Label) (key : String) : Bool :=
  label.key == key || label.aliases.contains key

/-- The keys by which the field goes, in order. -/
def Label.names (label : Label) : List String :=
  Keyed.keys (Keyed.ofPairs ((label.key :: label.aliases).map fun key => (key, ())))

/-- The keys of a map: texts, or integers of up to 64 bits. -/
inductive KeyShape where
  | text
  | integer (range : Text.IntegerRange)

mutual

/-- What an input is expected to be. -/
inductive Shape where
  | bool
  /-- an integer that texts can spell -/
  | integer (range : Text.IntegerRange)
  /-- an integer of a range that only JSON can give -/
  | wideInteger (range : Text.IntegerRange)
  | nonzero (range : Text.IntegerRange)
  | double
  | single
  | char
  | string
  | unit
  | unitRecord (name : String)
  | option (inner : Shape)
  | newtype (inner : Shape)
  | sequence (item : Shape)
  | tuple (items : List Shape)
  | map (key : KeyShape) (item : Shape)
  /-- a strict record refuses keys that name no field -/
  | record (name : String) (fields : List (Label × Shape)) (strict : Bool)
  | variants (name : String) (cases : List (String × Variant))
  | json
  | ignored
  /-- a record whose field `rest` takes the keys that no other field takes -/
  | flattened (name : String) (fields : List (Label × Shape)) (rest : String) (inner : Shape)
  /-- records told apart by the text under the key `tag` -/
  | tagged (name tag : String) (cases : List (String × Shape))
  /-- the first case that fits -/
  | untagged (name : String) (cases : List (String × Shape))

/-- The payload of one case of a variant. -/
inductive Variant where
  | unit
  | newtype (inner : Shape)
  | tuple (items : List Shape)
  | record (fields : List (Label × Shape))

end

/-- How error messages name what is expected. -/
def Shape.expecting : Shape → String
  | .bool => "a boolean"
  | .integer range => range.name
  | .wideInteger range => range.name
  | .nonzero range => "a nonzero " ++ range.name
  | .double => "f64"
  | .single => "f32"
  | .char => "a character"
  | .string => "a string"
  | .unit => "unit"
  | .unitRecord name => "unit struct " ++ name
  | .option _ => "option"
  | .newtype inner => inner.expecting
  | .sequence _ => "a sequence"
  | .tuple items => "a tuple of size " ++ toString items.length
  | .map _ _ => "a map"
  | .record name _ _ => "struct " ++ name
  | .variants name _ => "enum " ++ name
  | .json => "any valid JSON value"
  | .ignored => "anything at all"
  | .flattened name _ _ _ => "struct " ++ name
  | .tagged name _ _ => "internally tagged enum " ++ name
  | .untagged name _ => "untagged enum " ++ name

/-- The number of fields of a record. -/
def Shape.width : Shape → Nat
  | .record _ fields _ => fields.length
  | _ => 0

/-- The value of an absent field without a default, if its shape allows for absence. -/
def Shape.whenAbsent : Shape → Option Datum
  | .option _ => some .none
  | _ => none

end Rowgate.Input
