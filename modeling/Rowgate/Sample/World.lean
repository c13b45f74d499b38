import Rowgate.Operation.Basic
import Rowgate.Sample.Item
/-
What the sample operations work on: items in memory and a session of a database.
-/
set_option autoImplicit false

namespace Rowgate.Sample

structure World where
  /-- the names of the items, by identifier -/
  items : Keyed String := []
  session : Store.Session

/-- Computations on the world. -/
abbrev Act := StateM World

namespace World

/-- Whole numbers of at least two digits. -/
def twoDigits (n : Nat) : String := (if n < 10 then "0" else "") ++ toString n

/-- A world with `count` items, numbered from zero. -/
def seeded (count : Nat) (session : Store.Session) : World :=
  { items := Keyed.ofPairs ((List.range count).map fun n => (twoDigits n, "item " ++ toString n))
    session }

def item? (world : World) (id : String) : Option Item :=
  (world.items.get? id).map fun name => ⟨id, name⟩

/-- All items, by identifier. -/
def allItems (world : World) : List Item := world.items.map fun (id, name) => ⟨id, name⟩

end World

/-- Runs on the session of the world. -/
def onSession {α : Type} (run : Store.Run α) : Act (Except Store.StoreError α) := fun world =>
  let (result, session) := run world.session
  (result, { world with session })

end Rowgate.Sample
