import Rowgate.Input.Decode
import Rowgate.Sql.Page
/-
Pages as inputs: an optional limit and an optional offset, both signed numbers of 64 bits.
-/
set_option autoImplicit false

namespace Rowgate.Input

/-- An optional number of 64 bits that is absent by default. -/
def pageField (key : String) : Label × Shape :=
  (⟨key, [], some .none⟩, .option (.integer (.signed 64)))

/-- The shape of a page. -/
def pageShape : Shape := .record "PaginationParams" [pageField "limit", pageField "offset"] false

/-- The page that a datum of the shape is. -/
def pageOfDatum (d : Datum) : Sql.Page :=
  ⟨(d.field "limit").asInteger?, (d.field "offset").asInteger?⟩

/-- The page that a source gives. -/
def decodePage (source : Source) : Except DecodeError Sql.Page :=
  (pageShape.decode source).map pageOfDatum

end Rowgate.Input
