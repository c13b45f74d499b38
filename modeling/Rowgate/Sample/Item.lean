import Rowgate.Http.Endpoint
import Rowgate.Input.Page
/-
Items: the records that the sample operations work on.

An item has an identifier, under the key `_id`, and a name.
-/
set_option autoImplicit false

namespace Rowgate.Sample

open Input (Datum Shape Fields DecodeError)

structure Item where
  id : String := ""
  name : String := ""
deriving DecidableEq, Repr, Inhabited

namespace Item

def shape : Shape :=
  .record "Item" [({ key := "_id" }, .string), ({ key := "name" }, .string)] false

def ofDatum (d : Datum) : Item := ⟨(d.field "_id").asText, (d.field "name").asText⟩

def toJson (item : Item) : Json :=
  .object [("_id", .string item.id), ("name", .string item.name)]

end Item

/-- The identifier of an item as an input. -/
structure ItemId where
  id : String
deriving DecidableEq, Repr

namespace ItemId

def shape : Shape := .record "ItemId" [({ key := "_id" }, .string)] false

def ofDatum (d : Datum) : ItemId := ⟨(d.field "_id").asText⟩

end ItemId

/-- A page of items. -/
structure ItemPage where
  items : List Item := []
  limit : Int := 0
  offset : Int := 0
deriving DecidableEq, Repr, Inhabited

def ItemPage.toJson (page : ItemPage) : Json :=
  .object [("items", .array (page.items.map Item.toJson)), ("limit", .int page.limit),
    ("offset", .int page.offset)]

/-! ## Reading and writing -/

/-- Inputs of a shape, and outputs that are always written. -/
def codec {ι ο : Type} (shape : Shape) (ofDatum : Datum → ι) (toJson : ο → Json) :
    Http.Codec ι ο :=
  ⟨fun fields => (shape.decode (.request fields)).map ofDatum, fun output => .ok (toJson output)⟩

def itemCodec : Http.Codec Item Item := codec Item.shape Item.ofDatum Item.toJson

def itemIdCodec : Http.Codec ItemId Item := codec ItemId.shape ItemId.ofDatum Item.toJson

def pageCodec : Http.Codec Sql.Page ItemPage :=
  codec Input.pageShape Input.pageOfDatum ItemPage.toJson

end Rowgate.Sample
