import Rowgate.Store.Insert
/-
Removing rows from a table. A deletion without a filter is refused.
-/
set_option autoImplicit false

namespace Rowgate.Store

/-- A deletion under construction. -/
structure Delete where
  table : String
  filters : List Sql.Filter := []
  columnTypes : Keyed String := []
  returning : List String := []

/-- One change of a deletion. -/
inductive Delete.Step where
  | filter (f : Sql.Filter)
  | columnType (column type : String)
  | returning (names : List String)

namespace Delete

def apply (d : Delete) : Step → Delete
  | .filter f => { d with filters := d.filters ++ [f] }
  | .columnType column type => { d with columnTypes := d.columnTypes.insert column type }
  | .returning names => { d with returning := names }

/-- The deletion after steps. -/
def run (d : Delete) (steps : List Step) : Delete := steps.foldl apply d

/-- The checked statement: the table is checked first, then that there is a filter, then the
conditions and the columns given back. -/
def statement (d : Delete) : Except StoreError Sql.Statement := do
  let table ← checked (Sql.Identifier.ofName d.table)
  if d.filters.isEmpty then throw (.invalidQuery d.table "delete without filter")
  let conditions ← checked (Sql.Filter.checkAll d.columnTypes d.filters)
  let returning ← checked (returningColumns d.returning)
  return .delete table conditions returning

/-- The text and the values of the deletion. -/
def render (d : Delete) : Except StoreError Sql.Rendered := d.statement.map (·.render)

/-- The same deletion, giving back the rows it removed. -/
def givingBack (d : Delete) : Delete := { d with returning := returningOrAll d.returning }

/-- Deletes and counts the rows removed. -/
def execute (d : Delete) : Run Outcome := executing d.render

/-- Deletes and gives back the rows removed, each as it is read. -/
def fetchReturning {ρ : Type} (d : Delete) (read : Row → Except LinkError ρ) :
    Run (List ρ × Outcome) := fetching d.givingBack.render read

end Delete

end Rowgate.Store
