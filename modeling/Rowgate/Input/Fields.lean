import Rowgate.Json.Parser
import Rowgate.Text.Form
/-
The fields of a request, gathered from its three sources.

A field comes from the JSON body with its type, or from the query string or the path as a text. A
later source wins over an earlier one, and of several query pairs with one key the last one wins.
So the fields do not depend on the order in which path parameters are listed, nor on the order of
query pairs with different keys.
-/
set_option autoImplicit false

namespace Rowgate.Input

/-- One field, tagged with how it arrived. -/
inductive Field where
  | json (value : Json)
  | text (value : String)
deriving DecidableEq

/-- The field as a JSON value; a text is a string. -/
def Field.toJson : Field → Json
  | .json v => v
  | .text s => .string s

/-- The merged fields of one request. -/
abbrev Fields := Keyed Field

/-- Why a body cannot be read as members of an object. -/
inductive BodyError where
  | tooLong
  | malformed
  | notAnObject
deriving DecidableEq, Repr

def BodyError.message : BodyError → String
  | .tooLong => "unreadable body: length limit exceeded"
  | .malformed => "malformed JSON body"
  | .notAnObject => "request body must be a JSON object"

/-- The most bytes that a body may have. -/
def maxBodyBytes : Nat := 2 * 1024 * 1024

/-- The bytes that count as blank: space, tab, line feed, form feed and carriage return. -/
def isBlankByte (b : UInt8) : Bool := b == 32 || b == 9 || b == 10 || b == 12 || b == 13

/-- The members of the body's object. A blank body has none. -/
def bodyMembers (body : List UInt8) : Except BodyError (List (String × Json)) :=
  if body.all isBlankByte then .ok []
  else match Json.parseBytes? body with
    | none => .error .malformed
    | some (.object members) => .ok members
    | some _ => .error .notAnObject

/-- The fields that three lists of pairs give, the later list winning. -/
def Fields.merge (body : List (String × Json)) (query path : List (String × String)) : Fields :=
  let fields : Fields := Keyed.ofPairs (body.map fun (k, v) => (k, .json v))
  let fields := Keyed.insertAll fields (query.map fun (k, s) => (k, .text s))
  Keyed.insertAll fields (path.map fun (k, s) => (k, .text s))

/-- The fields of a request with the given body, query string and path parameters. -/
def gather (body : List UInt8) (query : Option String) (path : List (String × String)) :
    Except BodyError Fields := do
  let members ← bodyMembers body
  return Fields.merge members ((query.map Form.pairs).getD []) path

end Rowgate.Input
