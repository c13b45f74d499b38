import Rowgate.Sql.Name
/-
Filters: conditions on columns, and groups of them.

A condition compares a column with a value that may be absent, which is not the same as a null one:
an absent operand of equality asks whether the column is null, a null operand is bound like any
other value.
-/
set_option autoImplicit false

namespace Rowgate.Sql

/-- Comparisons of a column with one value. -/
inductive Comparison where
  | eq | ne | gt | gte | lt | lte | like | ilike
deriving DecidableEq, Repr

/-- How a comparison is written. -/
def Comparison.token : Comparison → String
  | .eq => "="
  | .ne => "!="
  | .gt => ">"
  | .gte => ">="
  | .lt => "<"
  | .lte => "<="
  | .like => "LIKE"
  | .ilike => "ILIKE"

/-- What a condition asks of a column. -/
inductive Operator where
  | compare (c : Comparison)
  | isIn
  | isNotIn
  | isNull
  | isNotNull
deriving DecidableEq, Repr

/-- How the members of a group are joined. -/
inductive Junction where
  | and
  | or
deriving DecidableEq, Repr

def Junction.joiner : Junction → String
  | .and => " AND "
  | .or => " OR "

/-- A question about one column. The operand may be absent. -/
structure Condition where
  field : String
  operator : Operator
  value : Option Json
deriving DecidableEq

/-- A condition, or a group of filters that all hold or of which one holds. -/
inductive Filter where
  | condition (c : Condition)
  | group (junction : Junction) (filters : List Filter)

namespace Filter

def and (filters : List Filter) : Filter := .group .and filters

def or (filters : List Filter) : Filter := .group .or filters

/-- The column compares to the value as stated. -/
def compare (c : Comparison) (field : String) (value : Json) : Filter :=
  .condition ⟨field, .compare c, some value⟩

def eq (field : String) (value : Json) : Filter := compare .eq field value

/-- The column matches the pattern. -/
def like (field pattern : String) : Filter := compare .like field (.string pattern)

/-- The column matches the pattern in either case. -/
def ilike (field pattern : String) : Filter := compare .ilike field (.string pattern)

/-- The column is one of the values. -/
def isIn (field : String) (values : List Json) : Filter :=
  .condition ⟨field, .isIn, some (.array values)⟩

/-- The column is none of the values. -/
def isNotIn (field : String) (values : List Json) : Filter :=
  .condition ⟨field, .isNotIn, some (.array values)⟩

def isNull (field : String) : Filter := .condition ⟨field, .isNull, none⟩

def isNotNull (field : String) : Filter := .condition ⟨field, .isNotNull, none⟩

mutual

/-- The columns that a filter asks about, in the order of its text. -/
def fields : Filter → List String
  | .condition c => [c.field]
  | .group _ filters => fieldsOf filters

/-- The columns that a list of filters asks about. -/
def fieldsOf : List Filter → List String
  | [] => []
  | f :: rest => fields f ++ fieldsOf rest

end

end Filter

end Rowgate.Sql
