import Rowgate.Config.Files
import Rowgate.Handler.Descriptor
import Rowgate.Http.Method
import Rowgate.Json.Printer
import Rowgate.Text.Utf8
/-
The catalog: what a service says about its routes.

Every route is listed with the descriptor of its handler and the HTTP statuses of the errors that it
declares, ascending and each once.
-/
set_option autoImplicit false

namespace Rowgate.Service

open Handler (Descriptor)
open Http (Method)

/-- Inserts a number into an ascending list, unless it is there. -/
def insertAscending (n : Nat) : List Nat → List Nat
  | [] => [n]
  | k :: rest =>
    if n < k then n :: k :: rest
    else if n = k then k :: rest
    else k :: insertAscending n rest

/-- One route of a service. -/
structure Entry where
  method : Method
  path : String
  handler : Descriptor

namespace Entry

/-- The HTTP statuses of the declared errors, ascending. -/
def errorStatuses (entry : Entry) : List Nat :=
  (entry.handler.expectedErrors.map (·.http)).foldr insertAscending []

def toJson (entry : Entry) : Json :=
  .object [("method", entry.method.toJson), ("path", .string entry.path),
    ("handler", entry.handler.toJson),
    ("error_statuses", .array (entry.errorStatuses.map fun (n : Nat) => .int n))]

end Entry

structure Catalog where
  title : String
  version : String
  description : Option String := none
  routes : List Entry := []

namespace Catalog

/-- The first route with a method and a path. -/
def route? (catalog : Catalog) (method : Method) (path : String) : Option Entry :=
  catalog.routes.find? fun entry => entry.method == method && entry.path == path

def toJson (catalog : Catalog) : Json :=
  .object ([("title", .string catalog.title), ("version", .string catalog.version)] ++
    Json.present "description" (catalog.description.map .string) ++
    [("routes", .array (catalog.routes.map Entry.toJson))])

/-- The catalog as indented text. -/
def text (catalog : Catalog) : String := catalog.toJson.pretty

/-- Writes the catalog to a file. -/
def write (catalog : Catalog) (files : Files) (path : String) : Except SetupError Files :=
  (files.write path (Utf8.encode catalog.text)).mapError .io

end Catalog

end Rowgate.Service
