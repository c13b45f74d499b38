import Rowgate.Json.Value
/-
The methods that handlers are mounted on, in their order.
-/
set_option autoImplicit false

namespace Rowgate.Http

inductive Method where
  | get
  | post
  | put
  | patch
  | delete
deriving DecidableEq, Repr

namespace Method

/-- All methods, in order. -/
def all : List Method := [.get, .post, .put, .patch, .delete]

/-- The place in the order. -/
def rank : Method → Nat
  | .get => 0
  | .post => 1
  | .put => 2
  | .patch => 3
  | .delete => 4

/-- The name on a request line. -/
def name : Method → String
  | .get => "GET"
  | .post => "POST"
  | .put => "PUT"
  | .patch => "PATCH"
  | .delete => "DELETE"

def toJson (method : Method) : Json := .string method.name

/-- The method of a name. -/
def ofName? (name : String) : Option Method := all.find? (·.name == name)

/-- The methods that come before this one. -/
def below (method : Method) : List Method :=
  all.filter fun other => decide (other.rank < method.rank)

/-- The names under which a handler of this method is reached: reading serves for looking too. -/
def served : Method → List String
  | .get => ["GET", "HEAD"]
  | method => [method.name]

end Method

end Rowgate.Http
