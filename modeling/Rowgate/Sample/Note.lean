import Rowgate.Sample.World
import Rowgate.Store.Delete
import Rowgate.Store.Select
import Rowgate.Store.Update
/-
Operations on items in a table of the database.
-/
set_option autoImplicit false

namespace Rowgate.Sample

open Operation (OpError Report)
open Store (LinkError Row Run StoreError)

/-- What is read of a row. -/
def Item.readRow (row : Row) : Except LinkError Item := do
  let text (key : String) : Except LinkError String :=
    match row.lookup key with
    | some (some s) => .ok s
    | some none => .error (.columnDecode key "unexpected null; try decoding as an Option")
    | none => .error (.columnNotFound key)
  return ⟨← text "_id", ← text "name"⟩

/-- The item that a row holds. -/
def Item.ofRow (row : Row) : Except StoreError Item := (readRow row).mapError .database

namespace Note

/-- The table of the notes. -/
def table : String := "note"

def named (id : String) : Sql.Filter := .condition ⟨"_id", .compare .eq, some (.string id)⟩

/-- The last of the items that were given back, and their number as the outcome. -/
def lastOf (output : Item) (wrap : StoreError → OpError)
    (result : Except StoreError (List Item × Store.Outcome)) : Item × Report :=
  match result with
  | .ok (items, outcome) => (items.getLastD output, .withOutcome outcome)
  | .error e => (output, .failed (wrap e))

/-- Inserts a note and gives it back. -/
def create : Operation Act Item Item where
  perform _ item output := do
    let insertion : Except StoreError Store.Insert :=
      ({ table } : Store.Insert).apply (.valuesFrom (.ok item.toJson))
    match insertion with
    | .error e => return (output, .failed (.ofStore e))
    | .ok insertion =>
      return lastOf output .ofStore (← onSession (insertion.fetchReturning Item.readRow))

/-- Reads one note. -/
def read : Operation Act ItemId Item where
  perform _ input output := do
    let selection := ({ table } : Store.Select).apply (.filter (named input.id))
    match (← onSession selection.fetchOne).bind Item.ofRow with
    | .ok item => return (item, .success)
    | .error e => return (output, .failed (.store e))

/-- Renames a note and counts the change. -/
def update : Operation Act Item Item where
  perform _ item output := do
    let change : Except StoreError Store.Update := ({ table } : Store.Update).run
      [.set "name" (.string item.name), .setExpression "_change" "_change + 1",
        .filter (named item.id)]
    match change with
    | .error e => return (output, .failed (.store e))
    | .ok change =>
      return (output, .ofOutcome ((← onSession change.execute).mapError .store))

/-- Deletes a note and gives it back. -/
def delete : Operation Act ItemId Item where
  perform _ input output := do
    let deletion := ({ table } : Store.Delete).apply (.filter (named input.id))
    return lastOf output .store (← onSession (deletion.fetchReturning Item.readRow))

/-- Lists a page of notes by identifier. -/
def list : Operation Act Sql.Page ItemPage where
  perform _ page output := do
    let page := page.fillDefaults
    let selection := ({ table } : Store.Select).run
      [.orderBy "_id" .ascending, .paginate page]
    match (← onSession selection.fetchAll).bind (·.mapM Item.ofRow) with
    | .ok items => return (⟨items, page.limitOrDefault, page.offsetOrDefault⟩, .success)
    | .error e => return (output, .failed (.store e))

end Note

end Rowgate.Sample
