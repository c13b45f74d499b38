import Rowgate.Http.Endpoint
import Rowgate.Service.Catalog
/-
Services: handlers on routes, with their catalog.

Mounting a handler adds it to the router and to the catalog, or is refused and leaves both; so the
catalog lists exactly what the router answers.
-/
set_option autoImplicit false

namespace Rowgate

open Http (Method PathError)

/-- A router and its catalog. -/
structure Service (m : Type → Type) where
  router : Http.Router m := []
  catalog : Service.Catalog

/-- A handler on a route, with the way its values are read and written. -/
structure Service.Route (m : Type → Type) where
  method : Method
  path : String
  descriptor : Handler.Descriptor
  endpoint : Http.Endpoint m

namespace Service

variable {m : Type → Type}

/-- A service without routes. -/
def new (title version : String) (description : Option String) : Service m :=
  { catalog := { title, version, description } }

/-- The route of a handler. -/
def Route.ofHandler {ι ο : Type} [Monad m] [Inhabited ο] (method : Method) (path : String)
    (codec : Http.Codec ι ο) (handler : Handler m ι ο) : Route m :=
  ⟨method, path, handler.descriptor, Http.handle codec handler⟩

/-- The service with one more route. -/
def mount (service : Service m) (route : Route m) : Except PathError (Service m) := do
  let router ← service.router.mount route.method route.path route.endpoint
  return { router
           catalog := { service.catalog with
             routes := service.catalog.routes ++ [⟨route.method, route.path, route.descriptor⟩] } }

/-- The service with more routes, mounted in turn. -/
def mountAll (service : Service m) (routes : List (Route m)) : Except PathError (Service m) :=
  routes.foldlM mount service

/-- The answer to a request. -/
def respond [Monad m] (service : Service m) (request : Http.Request) : m Http.Response :=
  service.router.respondToAny request

end Service

end Rowgate
