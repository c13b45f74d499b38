import Rowgate.Text.Percent
/-
Form-encoded pairs, the usual content of a query string.

Pieces are separated by `&`; empty ones are skipped. The first `=` of a piece ends its key, and a
piece without one is a key with an empty value. A plus sign stands for a space, and bytes that do
not spell a character are replaced, so reading never fails.
-/
set_option autoImplicit false

namespace Rowgate.Form

/-- Splits at every occurrence of a byte. -/
def splitAt (sep : UInt8) (bytes : List UInt8) : List (List UInt8) :=
  bytes.splitOnP (· == sep)

/-- The text of one key or value. -/
def decodePart (bytes : List UInt8) : String :=
  Percent.decodeTextLenient (bytes.map fun b => if b = 43 then 32 else b)

/-- The key and the value of one piece. -/
def decodePair (piece : List UInt8) : String × String :=
  (decodePart (piece.takeWhile (· != 61)), decodePart ((piece.dropWhile (· != 61)).drop 1))

/-- The pairs of a query string, in order. -/
def pairs (query : String) : List (String × String) :=
  ((splitAt 38 (Utf8.encode query)).filter (!·.isEmpty)).map decodePair

end Rowgate.Form
