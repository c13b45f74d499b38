import Rowgate.Sql.Statement
import Rowgate.Store.Session
/-
Reading rows of a table.

A selection is a table, the columns wanted and a query. Counting uses the same table and the same
conditions and nothing else of it, so it is not disturbed by columns, order or page.
-/
set_option autoImplicit false

namespace Rowgate.Store

/-- A selection under construction. -/
structure Select where
  table : String
  columns : List String := []
  query : Sql.Query := {}

/-- One change of a selection. -/
inductive Select.Step where
  | columns (names : List String)
  | filter (f : Sql.Filter)
  | columnType (column type : String)
  | orderBy (column : String) (direction : Sql.Direction)
  | limit (n : Int)
  | offset (n : Int)
  | paginate (page : Sql.Page)

namespace Select

def apply (s : Select) : Step → Select
  | .columns names => { s with columns := names }
  | .filter f => { s with query := s.query.apply (.filter f) }
  | .columnType column type => { s with query := s.query.apply (.columnType column type) }
  | .orderBy column direction => { s with query := s.query.apply (.orderBy column direction) }
  | .limit n => { s with query := s.query.apply (.limit n) }
  | .offset n => { s with query := s.query.apply (.offset n) }
  | .paginate page => { s with query := s.query.apply (.paginate page) }

/-- The selection after steps. -/
def run (s : Select) (steps : List Step) : Select := steps.foldl apply s

/-- The checked statement: the table is checked first, then the columns, the conditions and the
sort columns. -/
def statement (s : Select) : Except StoreError Sql.Statement := do
  let table ← checked (Sql.Identifier.ofName s.table)
  let columns ← checked (Sql.Columns.ofNames s.columns)
  let conditions ← checked s.query.predicates
  let order ← checked (Sql.SortTerm.ofNames s.query.order)
  return .select table columns conditions order s.query.page

/-- The checked statement that counts the rows of the selection. -/
def countStatement (s : Select) : Except StoreError Sql.Statement := do
  let table ← checked (Sql.Identifier.ofName s.table)
  let conditions ← checked s.query.predicates
  return .count table conditions

/-- The text and the values of the selection. -/
def render (s : Select) : Except StoreError Sql.Rendered := s.statement.map (·.render)

/-- The text and the values of the count. -/
def renderCount (s : Select) : Except StoreError Sql.Rendered := s.countStatement.map (·.render)

/-- The same selection of at most one row. -/
def single (s : Select) : Select := s.apply (.limit 1)

/-! ## Execution -/

/-- All rows. -/
def fetchAll (s : Select) : Run (List Row) := sending s.render fun a => .ok a.namedRows

/-- The first row; without one it is an error. -/
def fetchOne (s : Select) : Run Row :=
  sending s.single.render fun a =>
    match a.namedRows with
    | [] => .error .rowNotFound
    | row :: _ => .ok row

/-- The first row, if there is one. -/
def fetchOptional (s : Select) : Run (Option Row) :=
  sending s.single.render fun a => .ok a.namedRows.head?

/-- The number of rows that meet the conditions. -/
def count (s : Select) : Run Int := sending s.renderCount Answer.firstInteger

end Select

end Rowgate.Store
