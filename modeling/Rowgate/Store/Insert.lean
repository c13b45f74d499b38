import Rowgate.Sql.Statement
import Rowgate.Store.Assignments
import Rowgate.Store.Session
/-
Adding a row to a table.
-/
set_option autoImplicit false

namespace Rowgate.Store

/-- The columns that a write gives back: none named means no clause. -/
def returningColumns (names : List String) : Except Sql.NameError (Option Sql.Columns) :=
  if names.isEmpty then .ok none else return some (← Sql.Columns.ofNames names)

/-- The names given back when rows are wanted: every column, unless some were named. -/
def returningOrAll (names : List String) : List String := if names.isEmpty then ["*"] else names

/-- An insertion under construction. -/
structure Insert where
  table : String
  values : Assignments Json := []
  columnTypes : Keyed String := []
  returning : List String := []

/-- One change of an insertion. -/
inductive Insert.Step where
  | value (column : String) (value : Json)
  | valuesFrom (model : Model)
  | columnType (column type : String)
  | returning (names : List String)

namespace Insert

/-- A step on the insertion; only taking columns from a model can fail. -/
def apply (i : Insert) : Step → Except StoreError Insert
  | .value column value => .ok { i with values := i.values.assign column value }
  | .valuesFrom model => do
    return { i with values := i.values.assignAll (← model.columns i.table) }
  | .columnType column type => .ok { i with columnTypes := i.columnTypes.insert column type }
  | .returning names => .ok { i with returning := names }

/-- The insertion after steps, if none of them fails. -/
def run (i : Insert) (steps : List Step) : Except StoreError Insert := steps.foldlM apply i

/-- The checked values: each column is checked before the type it is cast to. -/
def slots (types : Keyed String) (values : Assignments Json) :
    Except Sql.NameError (List (Sql.Identifier × Sql.Slot)) :=
  values.mapM fun (column, value) => do
    let identifier ← Sql.Identifier.ofName column
    return (identifier, ⟨← Sql.castOf types column, value⟩)

/-- The checked statement: the table is checked first, then the columns given back and the
values. -/
def statement (i : Insert) : Except StoreError Sql.Statement := do
  let table ← checked (Sql.Identifier.ofName i.table)
  let returning ← checked (returningColumns i.returning)
  let values ← checked (slots i.columnTypes i.values)
  return .insert table values returning

/-- The text and the values of the insertion. -/
def render (i : Insert) : Except StoreError Sql.Rendered := i.statement.map (·.render)

/-- The same insertion, giving back the rows it made. -/
def givingBack (i : Insert) : Insert := { i with returning := returningOrAll i.returning }

/-- Inserts and counts the rows made. -/
def execute (i : Insert) : Run Outcome := executing i.render

/-- Inserts and gives back the rows made, each as it is read. -/
def fetchReturning {ρ : Type} (i : Insert) (read : Row → Except LinkError ρ) :
    Run (List ρ × Outcome) := fetching i.givingBack.render read

end Insert

end Rowgate.Store
