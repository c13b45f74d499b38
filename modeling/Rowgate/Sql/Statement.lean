import Rowgate.Sql.Query
/-
Statements: what is sent to the database.

A statement holds checked names only, so writing it cannot fail. Its slots stand in the order of its
text, and the placeholder of the slot at position `i`, counted from one, is `$i`.
-/
set_option autoImplicit false

namespace Rowgate.Sql

/-- What an update gives a column: a bound value, or an expression that is written as it is. -/
inductive Assigned where
  | slot (slot : Slot)
  | expression (sql : String)

/-- A statement over one table. -/
inductive Statement where
  | select (table : Identifier) (columns : Columns) (conditions : List Predicate)
      (order : List SortTerm) (page : Page)
  | count (table : Identifier) (conditions : List Predicate)
  | insert (table : Identifier) (values : List (Identifier × Slot)) (returning : Option Columns)
  | update (table : Identifier) (assignments : List (Identifier × Assigned))
      (conditions : List Predicate) (returning : Option Columns)
  | delete (table : Identifier) (conditions : List Predicate) (returning : Option Columns)

/-- Joins the parts of a statement that are not empty. -/
def joinParts (parts : List String) : String :=
  String.intercalate " " (parts.filter fun part => !part.isEmpty)

/-- The `RETURNING` clause. -/
def returningClause : Option Columns → String
  | none => ""
  | some columns => "RETURNING " ++ columns.text

namespace Assigned

def slots : Assigned → List Slot
  | .slot s => [s]
  | .expression _ => []

def text (number : Nat) : Assigned → String
  | .slot s => s.text number
  | .expression sql => sql

/-- The slots of assignments, in order. -/
def slotsOf : List (Identifier × Assigned) → List Slot
  | [] => []
  | (_, value) :: rest => value.slots ++ slotsOf rest

/-- The texts of assignments whose slots are numbered from `first`. -/
def texts (first : Nat) : List (Identifier × Assigned) → List String
  | [] => []
  | (column, value) :: rest =>
    (column.quoted ++ " = " ++ value.text first) :: texts (first + value.slots.length) rest

end Assigned

namespace Statement

/-- The slots of a statement, in the order of its text. -/
def slots : Statement → List Slot
  | .select _ _ conditions _ _ => Predicate.slotsOf conditions
  | .count _ conditions => Predicate.slotsOf conditions
  | .insert _ values _ => values.map (·.2)
  | .update _ assignments conditions _ =>
    Assigned.slotsOf assignments ++ Predicate.slotsOf conditions
  | .delete _ conditions _ => Predicate.slotsOf conditions

/-- The text of a statement. -/
def text : Statement → String
  | .select table columns conditions order page =>
    joinParts ["SELECT " ++ columns.text ++ " FROM " ++ table.quoted,
      Predicate.whereClause 1 conditions, SortTerm.clause order, page.text]
  | .count table conditions =>
    joinParts ["SELECT COUNT(*) FROM " ++ table.quoted, Predicate.whereClause 1 conditions]
  | .insert table [] returning =>
    joinParts ["INSERT INTO " ++ table.quoted ++ " DEFAULT VALUES", returningClause returning]
  | .insert table (value :: rest) returning =>
    let values := value :: rest
    joinParts ["INSERT INTO " ++ table.quoted ++
      " (" ++ String.intercalate ", " (values.map fun v => v.1.quoted) ++ ") VALUES (" ++
      String.intercalate ", " (Predicate.placeholders 1 (values.map (·.2))) ++ ")",
      returningClause returning]
  | .update table assignments conditions returning =>
    joinParts ["UPDATE " ++ table.quoted ++
      " SET " ++ String.intercalate ", " (Assigned.texts 1 assignments),
      Predicate.whereClause (1 + (Assigned.slotsOf assignments).length) conditions,
      returningClause returning]
  | .delete table conditions returning =>
    joinParts ["DELETE FROM " ++ table.quoted, Predicate.whereClause 1 conditions,
      returningClause returning]

/-- The values bound to the placeholders, in the order of their numbers. -/
def values (statement : Statement) : List Json := statement.slots.map (·.value)

/-- The text together with its values. -/
def render (statement : Statement) : Rendered := ⟨statement.text, statement.values⟩

end Statement

end Rowgate.Sql
