import Rowgate.Sql.Page
import Rowgate.Sql.Predicate
/-
Queries: what statements share.

A query gathers filters, sort columns, a page and the types of columns. It is built by steps, each
of which changes one of the four, and is checked clause by clause when its text is wanted.
-/
set_option autoImplicit false

namespace Rowgate.Sql

/-- Text with the values for its placeholders, in the order of their numbers. -/
structure Rendered where
  text : String
  values : List Json
deriving DecidableEq

/-- A checked sort column. -/
structure SortTerm where
  column : Identifier
  direction : Direction
deriving DecidableEq

namespace SortTerm

def text (term : SortTerm) : String := term.column.quoted ++ " " ++ term.direction.keyword

/-- The checked form of sort columns, up to the first that is refused. -/
def ofNames (terms : List (String × Direction)) : Except NameError (List SortTerm) :=
  terms.mapM fun (name, direction) => do return ⟨← Identifier.ofName name, direction⟩

/-- The `ORDER BY` clause; without terms there is none. -/
def clause (terms : List SortTerm) : String :=
  if terms.isEmpty then "" else "ORDER BY " ++ String.intercalate ", " (terms.map text)

end SortTerm

/-- Filters, sort columns, a page and the types that columns are cast to. -/
structure Query where
  filters : List Filter := []
  order : List (String × Direction) := []
  page : Page := {}
  columnTypes : Keyed String := []

/-- One change of a query. -/
inductive Query.Step where
  | filter (f : Filter)
  | filters (fs : List Filter)
  | orderBy (column : String) (direction : Direction)
  | limit (n : Int)
  | offset (n : Int)
  | paginate (page : Page)
  | columnType (column type : String)

namespace Query

def apply (query : Query) : Step → Query
  | .filter f => { query with filters := query.filters ++ [f] }
  | .filters fs => { query with filters := query.filters ++ fs }
  | .orderBy column direction => { query with order := query.order ++ [(column, direction)] }
  | .limit n => { query with page := query.page.withLimit n }
  | .offset n => { query with page := query.page.withOffset n }
  | .paginate page => { query with page := query.page.overrideWith page }
  | .columnType column type =>
    { query with columnTypes := query.columnTypes.insert column type }

/-- The query after steps. -/
def run (query : Query) (steps : List Step) : Query := steps.foldl apply query

def hasConditions (query : Query) : Bool := !query.filters.isEmpty

/-- The checked filters. -/
def predicates (query : Query) : Except NameError (List Predicate) :=
  Filter.checkAll query.columnTypes query.filters

/-- The `WHERE` clause with placeholders numbered from `first`, and its values. -/
def whereClause (first : Nat) (query : Query) : Except NameError Rendered := do
  let parts ← query.predicates
  return ⟨Predicate.whereClause first parts, (Predicate.slotsOf parts).map (·.value)⟩

/-- The `ORDER BY` clause. -/
def orderClause (query : Query) : Except NameError String := do
  return SortTerm.clause (← SortTerm.ofNames query.order)

end Query

end Rowgate.Sql
