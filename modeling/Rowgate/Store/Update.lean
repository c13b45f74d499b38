import Rowgate.Store.Insert
/-
Changing rows of a table.

An update without assignments or without a filter is refused. The values of the assignments come
first and those of the conditions after them, in the text as in the numbering.
-/
set_option autoImplicit false

namespace Rowgate.Store

/-- What a column is set to: a value to bind, or an expression that is written as it is. -/
inductive NewValue where
  | value (value : Json)
  | expression (sql : String)
deriving DecidableEq

/-- An update under construction. -/
structure Update where
  table : String
  set : Assignments NewValue := []
  filters : List Sql.Filter := []
  columnTypes : Keyed String := []
  returning : List String := []

/-- One change of an update. -/
inductive Update.Step where
  | set (column : String) (value : Json)
  | setExpression (column sql : String)
  | setFrom (model : Model)
  | remove (column : String)
  | filter (f : Sql.Filter)
  | columnType (column type : String)
  | returning (names : List String)

namespace Update

/-- A step on the update; only taking columns from a model can fail. -/
def apply (u : Update) : Step → Except StoreError Update
  | .set column value => .ok { u with set := u.set.assign column (.value value) }
  | .setExpression column sql => .ok { u with set := u.set.assign column (.expression sql) }
  | .setFrom model => do
    let columns ← model.columns u.table
    return { u with set := u.set.assignAll (columns.map fun (c, v) => (c, .value v)) }
  | .remove column => .ok { u with set := u.set.remove column }
  | .filter f => .ok { u with filters := u.filters ++ [f] }
  | .columnType column type => .ok { u with columnTypes := u.columnTypes.insert column type }
  | .returning names => .ok { u with returning := names }

/-- The update after steps, if none of them fails. -/
def run (u : Update) (steps : List Step) : Except StoreError Update := steps.foldlM apply u

/-- The checked assignments: each column is checked before the type its value is cast to. -/
def assigned (types : Keyed String) (set : Assignments NewValue) :
    Except Sql.NameError (List (Sql.Identifier × Sql.Assigned)) :=
  set.mapM fun (column, value) => do
    let identifier ← Sql.Identifier.ofName column
    match value with
    | .value v => return (identifier, .slot ⟨← Sql.castOf types column, v⟩)
    | .expression sql => return (identifier, .expression sql)

/-- The checked statement: the table is checked first, then that there are assignments and filters,
then the assignments, the conditions and the columns given back. -/
def statement (u : Update) : Except StoreError Sql.Statement := do
  let table ← checked (Sql.Identifier.ofName u.table)
  if u.set.isEmpty then throw (.invalidQuery u.table "update without assignments")
  if u.filters.isEmpty then throw (.invalidQuery u.table "update without filter")
  let assignments ← checked (assigned u.columnTypes u.set)
  let conditions ← checked (Sql.Filter.checkAll u.columnTypes u.filters)
  let returning ← checked (returningColumns u.returning)
  return .update table assignments conditions returning

/-- The text and the values of the update. -/
def render (u : Update) : Except StoreError Sql.Rendered := u.statement.map (·.render)

/-- The same update, giving back the rows it changed. -/
def givingBack (u : Update) : Update := { u with returning := returningOrAll u.returning }

/-- Updates and counts the rows changed. -/
def execute (u : Update) : Run Outcome := executing u.render

/-- Updates and gives back the rows changed, each as it is read. -/
def fetchReturning {ρ : Type} (u : Update) (read : Row → Except LinkError ρ) :
    Run (List ρ × Outcome) := fetching u.givingBack.render read

end Update

end Rowgate.Store
