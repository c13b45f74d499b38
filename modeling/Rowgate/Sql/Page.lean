import Rowgate.Json.Value
/-
Pages of a listing, and the order of rows.

A limit and an offset are each present or absent. Filling in the defaults touches only what is
absent: a given value, whatever it is, is kept.
-/
set_option autoImplicit false

namespace Rowgate.Sql

/-! ## Order -/

/-- The direction of a sort. -/
inductive Direction where
  | ascending
  | descending
deriving DecidableEq, Repr

instance : Inhabited Direction := ⟨.ascending⟩

def Direction.keyword : Direction → String
  | .ascending => "ASC"
  | .descending => "DESC"

/-! ## Limit and offset -/

/-- Which rows of a listing are wanted. -/
structure Page where
  limit : Option Int := none
  offset : Option Int := none
deriving DecidableEq, Repr

namespace Page

def defaultLimit : Int := 20

def defaultOffset : Int := 0

def withLimit (limit : Int) (page : Page) : Page := { page with limit := some limit }

def withOffset (offset : Int) (page : Page) : Page := { page with offset := some offset }

/-- The limit, or the default one. -/
def limitOrDefault (page : Page) : Int := page.limit.getD defaultLimit

/-- The offset, or the default one. -/
def offsetOrDefault (page : Page) : Int := page.offset.getD defaultOffset

/-- Gives what is absent its default. -/
def fillDefaults (page : Page) : Page := ⟨some page.limitOrDefault, some page.offsetOrDefault⟩

/-- Takes over what the other page gives and keeps the rest. -/
def overrideWith (page other : Page) : Page :=
  ⟨other.limit.or page.limit, other.offset.or page.offset⟩

/-- The `LIMIT` and `OFFSET` clauses, for what is present. -/
def text (page : Page) : String :=
  let limit := page.limit.map fun n => "LIMIT " ++ toString n
  let offset := page.offset.map fun n => "OFFSET " ++ toString n
  String.intercalate " " (limit.toList ++ offset.toList)

/-- The page as an object with what is present. -/
def toJson (page : Page) : Json :=
  .object (Json.present "limit" (page.limit.map .int) ++
    Json.present "offset" (page.offset.map .int))

end Page

end Rowgate.Sql
