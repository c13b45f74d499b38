import Rowgate.Sample.Note
import Rowgate.Sample.Replay
import Rowgate.Sample.Shelf
import Rowgate.Service.Basic
/-
The sample operations on routes.

An operation is known by its name. What its types are called is up to the caller, since these names
only show in the catalog and in error messages.
-/
set_option autoImplicit false

namespace Rowgate.Sample

open Http (Method)

/-- What the types of inputs and outputs are called. -/
structure TypeNames where
  item : String
  itemId : String
  itemPage : String
  page : String
  json : String
  replayed : String

/-- An operation that is ready to be mounted on a route, with any settings. -/
abbrev Mountable := Method → String → Handler.Settings → Service.Route Act

/-- Makes an operation ready to be mounted. -/
def mountable {ι ο : Type} [Inhabited ο] (operation : Operation Act ι ο) (codec : Http.Codec ι ο)
    (inputType outputType : String) : Mountable := fun method path settings =>
  .ofHandler method path codec (.build operation settings inputType outputType)

/-- The operation of a name. -/
def operation? (names : TypeNames) (reader : Script.Reader) (name : String) : Option Mountable :=
  match name with
  | "create" => some (mountable Shelf.create itemCodec names.item names.item)
  | "get" => some (mountable Shelf.read itemIdCodec names.itemId names.item)
  | "update" => some (mountable Shelf.update itemCodec names.item names.item)
  | "delete" => some (mountable Shelf.delete itemIdCodec names.itemId names.item)
  | "list" => some (mountable Shelf.list pageCodec names.page names.itemPage)
  | "scripted" => some (mountable (replay reader) replayCodec names.json names.replayed)
  | "echo" => some (mountable echo echoCodec names.json names.json)
  | "note_create" => some (mountable Note.create itemCodec names.item names.item)
  | "note_get" => some (mountable Note.read itemIdCodec names.itemId names.item)
  | "note_update" => some (mountable Note.update itemCodec names.item names.item)
  | "note_delete" => some (mountable Note.delete itemIdCodec names.itemId names.item)
  | "note_list" => some (mountable Note.list pageCodec names.page names.itemPage)
  | _ => none

/-- The routes for items in memory, under the tag `Item`. -/
def shelfRoutes (names : TypeNames) : List (Service.Route Act) :=
  let one := "/item/\x7b_id\x7d"
  let settings := Handler.Settings.tagged "Item"
  [mountable Shelf.create itemCodec names.item names.item .post "/item"
      (settings.apply (.summary "Create an item")),
    mountable Shelf.read itemIdCodec names.itemId names.item .get one settings,
    mountable Shelf.update itemCodec names.item names.item .put one settings,
    mountable Shelf.delete itemIdCodec names.itemId names.item .delete one settings,
    mountable Shelf.list pageCodec names.page names.itemPage .get "/item"
      (settings.apply (.expectedError .invalidArgument))]

end Rowgate.Sample
