import Rowgate.Json.Printer
import Rowgate.Store.Error
/-
Assignments: which columns a write fills, and with what.

The columns stand in the order in which they were first assigned. Assigning again replaces the value
in place, and leaving a column out removes it, so a column never stands in the list twice.
-/
set_option autoImplicit false

namespace Rowgate.Store

/-- Columns with what they are given. -/
abbrev Assignments (α : Type) := List (String × α)

namespace Assignments

variable {α : Type}

/-- Gives a column a value, at its place if it has one and at the end otherwise. -/
def assign (column : String) (value : α) : Assignments α → Assignments α
  | [] => [(column, value)]
  | (c, v) :: rest =>
    if c = column then (c, value) :: rest else (c, v) :: assign column value rest

/-- Assigns each pair in turn. -/
def assignAll (pairs : List (String × α)) (a : Assignments α) : Assignments α :=
  pairs.foldl (fun a pair => a.assign pair.1 pair.2) a

/-- Leaves a column out. -/
def remove (column : String) (a : Assignments α) : Assignments α := a.filter fun p => p.1 != column

end Assignments

/-- A value to take columns from: what serializing it gave, or the text of its failure. -/
abbrev Model := Except String Json

namespace Model

/-- The columns of a model and their values, in the order of its keys; null members are left out. -/
def columns (table : String) : Model → Except StoreError (List (String × Json))
  | .error text => .error (.serialization text)
  | .ok (.object members) => .ok (members.filter fun m => !m.2.isNull)
  | .ok other =>
    .error (.invalidQuery table ("expected an object to take columns from, got " ++ other.compact))

end Model

end Rowgate.Store
