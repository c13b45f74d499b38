import Rowgate.Sql.Filter
/-
Predicates: filters whose names have been checked, and their text.

Checking and writing are apart. `Filter.check` turns a filter into a predicate or reports the first
name that may not stand in the text, a column before the type it is cast to. `Predicate.text` then
cannot fail: it writes a predicate with its placeholders numbered from a given start, each part
starting where the slots of the parts before it end. The values bound to those placeholders are the
values of the slots, in the same order.
-/
set_option autoImplicit false

namespace Rowgate.Sql

/-- A checked condition or group. -/
inductive Predicate where
  /-- true or false whatever the row -/
  | constant (holds : Bool)
  | nullity (column : Identifier) (isNull : Bool)
  | compare (column : Identifier) (comparison : Comparison) (operand : Slot)
  /-- the column is one of the values, or none of them -/
  | membership (column : Identifier) (isIn : Bool) (operands : List Slot)
  | group (junction : Junction) (parts : List Predicate)

/-! ## From filters -/

/-- The predicate of a condition. An empty list holds nothing and everything is outside it; a test
of membership in what is no list, and an ordering without a value, match nothing. -/
def Condition.check (types : Keyed String) (c : Condition) : Except NameError Predicate := do
  let column ← Identifier.ofName c.field
  match c.operator, c.value with
  | .isNull, _ => return .nullity column true
  | .isNotNull, _ => return .nullity column false
  | .compare .eq, none => return .nullity column true
  | .compare .ne, none => return .nullity column false
  | .compare comparison, some value =>
    return .compare column comparison ⟨← castOf types c.field, value⟩
  | .isIn, some (.array []) => return .constant false
  | .isNotIn, some (.array []) => return .constant true
  | .isIn, some (.array (value :: values)) =>
    let cast ← castOf types c.field
    return .membership column true ((value :: values).map (⟨cast, ·⟩))
  | .isNotIn, some (.array (value :: values)) =>
    let cast ← castOf types c.field
    return .membership column false ((value :: values).map (⟨cast, ·⟩))
  | _, _ => return .constant false

mutual

/-- The predicate of a filter. An empty group is the neutral element of its junction. -/
def Filter.check (types : Keyed String) : Filter → Except NameError Predicate
  | .condition c => c.check types
  | .group .and [] => .ok (.constant true)
  | .group .or [] => .ok (.constant false)
  | .group junction (f :: rest) => do
    let first ← Filter.check types f
    let others ← Filter.checkAll types rest
    return .group junction (first :: others)

/-- The predicates of a list of filters, up to the first that is refused. -/
def Filter.checkAll (types : Keyed String) : List Filter → Except NameError (List Predicate)
  | [] => .ok []
  | f :: rest => do
    let first ← Filter.check types f
    let others ← Filter.checkAll types rest
    return first :: others

end

/-! ## Slots and text -/

namespace Predicate

mutual

/-- The slots of a predicate, in the order of its text. -/
def slots : Predicate → List Slot
  | .constant _ => []
  | .nullity _ _ => []
  | .compare _ _ operand => [operand]
  | .membership _ _ operands => operands
  | .group _ parts => slotsOf parts

/-- The slots of a list of predicates. -/
def slotsOf : List Predicate → List Slot
  | [] => []
  | p :: rest => slots p ++ slotsOf rest

end

/-- The placeholders of slots that are numbered from `first`. -/
def placeholders (first : Nat) : List Slot → List String
  | [] => []
  | slot :: rest => slot.text first :: placeholders (first + 1) rest

mutual

/-- The text of a predicate with its placeholders numbered from `first`. -/
def text (first : Nat) : Predicate → String
  | .constant true => "1=1"
  | .constant false => "1=0"
  | .nullity column true => column.quoted ++ " IS NULL"
  | .nullity column false => column.quoted ++ " IS NOT NULL"
  | .compare column comparison operand =>
    column.quoted ++ " " ++ comparison.token ++ " " ++ operand.text first
  | .membership column isIn operands =>
    column.quoted ++ (if isIn then " IN (" else " NOT IN (") ++
      String.intercalate ", " (placeholders first operands) ++ ")"
  | .group junction parts =>
    "(" ++ String.intercalate junction.joiner (texts first parts) ++ ")"

/-- The texts of predicates, each numbered on from the slots of those before it. -/
def texts (first : Nat) : List Predicate → List String
  | [] => []
  | p :: rest => text first p :: texts (first + (slots p).length) rest

end

/-- The `WHERE` clause of a conjunction; without parts there is no clause. -/
def whereClause (first : Nat) (parts : List Predicate) : String :=
  if parts.isEmpty then "" else "WHERE " ++ String.intercalate " AND " (texts first parts)

end Predicate

end Rowgate.Sql
