import Rowgate.Sample.Item
/-
Sample shapes, one of each kind and some of mixed kinds.

A shape is known by its name. A name of a field's shape stands for the record with that one field;
`opt_` in front of it makes the field optional.
-/
set_option autoImplicit false

namespace Rowgate.Sample

open Input (Datum Label Shape)

/-! ## Parts -/

def signed (bits : Nat) : Shape := .integer (.signed bits)

def unsigned (bits : Nat) : Shape := .integer (.unsigned bits)

/-- A field with a key and no default. -/
def field (key : String) (shape : Shape) : Label × Shape := ({ key }, shape)

/-- A field with a default. -/
def fieldOr (key : String) (fallback : Datum) (shape : Shape) : Label × Shape :=
  ({ key, fallback := some fallback }, shape)

/-- A direction of a sort. -/
def order : Shape := .variants "Order" [("asc", .unit), ("desc", .unit)]

/-- Figures, with a payload of each kind. -/
def figure : Shape :=
  .variants "Shape" [("Point", .unit), ("Circle", .newtype (signed 64)),
    ("Line", .tuple [signed 64, signed 64]),
    ("Rect", .record [field "w" (signed 64), field "h" (signed 64)])]

def pair : Shape := .tuple [signed 32, .string]

/-! ## Shapes by name -/

/-- Shapes of a single field. -/
def fieldShapes : List (String × Shape) :=
  [("bool", .bool), ("i8", signed 8), ("i16", signed 16), ("i32", signed 32), ("i64", signed 64),
    ("u8", unsigned 8), ("u16", unsigned 16), ("u32", unsigned 32), ("u64", unsigned 64),
    ("i128", .wideInteger (.signed 128)), ("u128", .wideInteger (.unsigned 128)),
    ("f32", .single), ("f64", .double), ("char", .char), ("string", .string), ("unit", .unit),
    ("unit_struct", .unitRecord "UnitStruct"), ("nonzero", .nonzero (.unsigned 32)),
    ("count", .newtype (signed 32)), ("label", .newtype .string), ("order", order),
    ("shape", figure), ("item", Item.shape), ("json", .json), ("ignored", .ignored),
    ("vec_i64", .sequence (signed 64)), ("vec", .sequence (signed 64)),
    ("vec_string", .sequence .string), ("pair", pair), ("map", .map .text (signed 64))]

/-- Records. -/
def recordShapes : List (String × Shape) :=
  [("Item", Item.shape), ("ItemId", ItemId.shape), ("PaginationParams", Input.pageShape),
    ("Listing", .record "Listing" [field "limit" (unsigned 32), field "flag" .bool,
      field "ratio" .double, field "name" .string, field "list" .string] false),
    ("Lookup", .record "Lookup" [field "sku" .string, field "name" .string,
      field "note" (.option .string)] false),
    ("Strict", .record "Strict" [field "a" (signed 64), field "b" (.option .string)] true),
    ("Defaults", .record "Defaults" [fieldOr "n" (.integer 7) (signed 64),
      fieldOr "s" (.text "dflt") .string, fieldOr "flag" (.bool true) .bool] false),
    ("Flat", .flattened "Flat" [field "name" .string] "page" Input.pageShape),
    ("Renamed", .record "Renamed" [({ key := "_id", aliases := ["id"] }, unsigned 16),
      field "displayName" (.option .string)] false),
    ("Wrapped", .newtype Item.shape),
    ("Tagged", .tagged "Tagged" "kind"
      [("A", .record "Tagged::A" [field "n" (signed 64)] false),
        ("B", .record "Tagged::B" [field "s" .string] false)]),
    ("Either", .untagged "Either"
      [("Num", .record "Either::Num" [field "n" (signed 64)] false),
        ("Str", .record "Either::Str" [field "n" .string] false)])]

/-- Other shapes of a whole input. -/
def wholeShapes : List (String × Shape) :=
  [("option", .option Item.shape), ("order", order), ("unit", .unit),
    ("unit_struct", .unitRecord "UnitStruct"), ("string", .string), ("char", .char),
    ("bool", .bool), ("i64", signed 64), ("f32", .single), ("seq", .sequence .string),
    ("pair", pair), ("json", .json), ("ignored", .ignored), ("map", .map .text .string),
    ("map_i64", .map .text (signed 64)), ("map_u32key", .map (.integer (.unsigned 32)) .string),
    ("map_opt", .map .text (.option (signed 64)))]

/-- The text behind a beginning, if the characters start with it. -/
def stripFront (front : List Char) (cs : List Char) : Option (List Char) :=
  if front.isPrefixOf cs then some (cs.drop front.length) else none

/-- The shape of one field. At most `fuel` options are made of it. -/
def fieldShape? (fuel : Nat) (name : List Char) : Option Shape :=
  match fuel with
  | 0 => none
  | fuel + 1 =>
    (fieldShapes.lookup (String.ofList name)).or <|
      ((stripFront "opt_".toList name).bind (fieldShape? fuel)).map .option

/-- The shape of a name. -/
def shape? (name : String) : Option Shape :=
  match stripFront "top_".toList name.toList with
  | some rest => wholeShapes.lookup (String.ofList rest)
  | none => (recordShapes.lookup name).or <|
      (fieldShape? (name.length + 1) name.toList).map fun shape =>
        .record "One" [field "v" shape] false

end Rowgate.Sample
