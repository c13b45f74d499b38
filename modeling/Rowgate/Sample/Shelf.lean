import Rowgate.Sample.World
/-
Operations on items in memory.
-/
set_option autoImplicit false

namespace Rowgate.Sample

open Operation (OpError Report)

namespace Shelf

/-- Adds an item whose identifier is new. -/
def create : Operation Act Item Item where
  perform _ item output := do
    let world ← get
    if (world.item? item.id).isSome then
      return (output, .failed (.alreadyExists ("item " ++ item.id ++ " already exists")))
    set { world with items := world.items.insert item.id item.name }
    return (item, .withOutcome (.known 1))

/-- Reads an item. -/
def read : Operation Act ItemId Item where
  perform _ input output := do
    match (← get).item? input.id with
    | some item => return (item, .success)
    | none => return (output, .failed (.store (.database .rowNotFound)))

/-- Renames an item. -/
def update : Operation Act Item Item where
  perform _ item output := do
    let world ← get
    if (world.item? item.id).isNone then return (output, .withOutcome (.known 0))
    set { world with items := world.items.insert item.id item.name }
    return (item, .withOutcome (.known 1))

/-- Removes an item and gives it back. -/
def delete : Operation Act ItemId Item where
  perform _ input output := do
    let world ← get
    match world.item? input.id with
    | none => return (output, .withOutcome (.known 0))
    | some item =>
      set { world with items := world.items.filter (·.1 != input.id) }
      return (item, .withOutcome (.known 1))

/-- A bound of a page as a count: a negative number counts from the top of 64 bits, and so takes in
everything. -/
def asCount (n : Int) : Nat := (n % UInt64.size).toNat

/-- Lists items by identifier, a page of them. -/
def list : Operation Act Sql.Page ItemPage where
  perform _ page _ := do
    let page := page.fillDefaults
    let (limit, offset) := (page.limitOrDefault, page.offsetOrDefault)
    let items := ((← get).allItems.drop (asCount offset)).take (asCount limit)
    return (⟨items, limit, offset⟩, .success)

end Shelf

end Rowgate.Sample
