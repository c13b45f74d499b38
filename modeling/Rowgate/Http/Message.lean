import Rowgate.Json.Printer
/-
Requests and responses.

The target of a request is split into a path and a query; neither is decoded here. A fragment is
not part of either.
-/
set_option autoImplicit false

namespace Rowgate.Http

/-! ## Targets -/

/-- What a request asks for: a path, and a query if there is a question mark. -/
structure Target where
  path : String
  query : Option String := none
deriving DecidableEq, Repr

namespace Target

/-- Splits a path from the query behind it. -/
def split (cs : List Char) : Target :=
  let cs := cs.takeWhile (· != '#')
  let path := cs.takeWhile (· != '?')
  match cs.dropWhile (· != '?') with
  | [] => ⟨String.ofList path, none⟩
  | _ :: query => ⟨String.ofList path, some (String.ofList query)⟩

/-- The characters behind the scheme and the two slashes, if a text starts with a scheme. -/
def afterScheme? (cs : List Char) : Option (List Char) :=
  match cs.dropWhile fun c => c.isAlphanum || c == '+' || c == '-' || c == '.' with
  | ':' :: '/' :: '/' :: rest => some rest
  | _ => none

/-- Whether a character ends the name of a host. -/
def endsAuthority (c : Char) : Bool := c == '/' || c == '?' || c == '#'

/-- The target of a URI, which may name a scheme and a host; behind these an empty path is the
root. -/
def ofUri (uri : String) : Target :=
  match uri.toList with
  | '/' :: _ => split uri.toList
  | cs =>
    match afterScheme? cs with
    | some rest =>
      let target := split (rest.dropWhile (!endsAuthority ·))
      { target with path := if target.path.isEmpty then "/" else target.path }
    | none => ⟨if uri = "*" then "*" else "", none⟩

end Target

/-! ## Messages -/

structure Request where
  method : String
  target : Target
  body : List UInt8 := []
deriving DecidableEq

/-- A response; the names of its headers are in lower case. -/
structure Response where
  status : Nat
  headers : List (String × String) := []
  body : String := ""
deriving DecidableEq, Repr

namespace Response

def withHeader (response : Response) (name value : String) : Response :=
  { response with headers := response.headers ++ [(name, value)] }

def withoutBody (response : Response) : Response := { response with body := "" }

/-- What a status is called. -/
def reason : Nat → String
  | 200 => "OK"
  | 400 => "Bad Request"
  | 404 => "Not Found"
  | 405 => "Method Not Allowed"
  | 409 => "Conflict"
  | 500 => "Internal Server Error"
  | 503 => "Service Unavailable"
  | _ => ""

/-- The first line of a response. -/
def statusLine (response : Response) : String :=
  "HTTP/1.1 " ++ toString response.status ++ " " ++ reason response.status

def header? (response : Response) (name : String) : Option String := response.headers.lookup name

/-- A JSON value as the body of a response. -/
def json (status : Nat) (value : Json) : Response :=
  { status, headers := [("content-type", "application/json")], body := value.compact }

/-- A plain text as the body of a response. -/
def text (status : Nat) (body : String) : Response :=
  { status, headers := [("content-type", "text/plain; charset=utf-8")], body }

end Response

end Rowgate.Http
