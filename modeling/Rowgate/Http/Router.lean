import Rowgate.Http.Message
import Rowgate.Http.Method
import Rowgate.Http.Pattern
/-
Routing: from a method and a path to an endpoint.

A router is a list of resources, each a path with the endpoints mounted on it, in the order of
mounting. Mounting is refused for a path that is no pattern, for a pattern in conflict with another
resource's, and for a method that the path has already. A path that was mounted verbatim and holds
no parameter is answered by its own resource, since characters rank before parameters.
-/
set_option autoImplicit false

namespace Rowgate.Http

/-- The texts that the parameters of a pattern took, not decoded. -/
abbrev Captures := List (String × String)

/-- What answers the requests of one method on one path. -/
abbrev Endpoint (m : Type → Type) := Captures → Request → m Response

/-- The endpoints of one path. -/
structure Resource (m : Type → Type) where
  path : String
  pattern : Pattern
  endpoints : List (Method × Endpoint m) := []

namespace Resource

variable {m : Type → Type}

def endpoint? (resource : Resource m) (method : Method) : Option (Endpoint m) :=
  (resource.endpoints.find? (·.1 == method)).map (·.2)

/-- The methods that the resource takes, in the order of mounting. -/
def allow (resource : Resource m) : String :=
  String.intercalate "," (resource.endpoints.flatMap (·.1.served))

/-- The resource with one more endpoint. -/
def mount (resource : Resource m) (method : Method) (endpoint : Endpoint m) :
    Except PathError (Resource m) :=
  if (resource.endpoint? method).isSome then .error .taken
  else .ok { resource with endpoints := resource.endpoints ++ [(method, endpoint)] }

/-- The answer to a request on this path. Looking runs the endpoint of reading and drops the body;
a method without an endpoint is not allowed. -/
def respond [Monad m] (resource : Resource m) (captures : Captures) (request : Request) :
    m Response :=
  let notAllowed : Response := { status := 405, headers := [("allow", resource.allow)] }
  if request.method = "HEAD" then
    match resource.endpoint? .get with
    | some endpoint => Response.withoutBody <$> endpoint captures request
    | none => return notAllowed
  else
    match (Method.ofName? request.method).bind resource.endpoint? with
    | some endpoint => endpoint captures request
    | none => return notAllowed

end Resource

/-- Resources in the order of mounting. -/
abbrev Router (m : Type → Type) := List (Resource m)

namespace Router

variable {m : Type → Type}

/-- Mounts on the resource of the path, if there is one. -/
def mountExisting (path : String) (method : Method) (endpoint : Endpoint m) :
    Router m → Option (Except PathError (Router m))
  | [] => none
  | resource :: rest =>
    if resource.path = path then
      some ((resource.mount method endpoint).map (· :: rest))
    else (mountExisting path method endpoint rest).map (·.map (resource :: ·))

/-- The router with one more endpoint. -/
def mount (router : Router m) (method : Method) (path : String) (endpoint : Endpoint m) :
    Except PathError (Router m) := do
  let pattern ← Pattern.ofPath path
  match mountExisting path method endpoint router with
  | some result => result
  | none =>
    if router.any fun resource => resource.pattern.conflicts pattern then .error .conflict
    else return router ++ [⟨path, pattern, [(method, endpoint)]⟩]

/-- Of two matches the one whose pattern ranks first. -/
def better (old : Option (Resource m × Captures)) (new : Resource m × Captures) :
    Option (Resource m × Captures) :=
  match old with
  | none => some new
  | some old => if new.1.pattern.precedes old.1.pattern then some new else some old

/-- The resource of a path, and what its parameters take of it. -/
def find? (router : Router m) (path : String) : Option (Resource m × Captures) :=
  let fits := router.filterMap fun resource =>
    (resource.pattern.captures? path.toList).map (resource, ·)
  fits.foldl better none

/-- The answer to a request; on a path without a resource there is nothing. -/
def respond [Monad m] (router : Router m) (request : Request) : m Response :=
  match router.find? request.target.path with
  | none => return { status := 404 }
  | some (resource, captures) => resource.respond captures request

/-! ## Requests from other origins -/

/-- **Any origin.** Every response may be used by any origin. An `OPTIONS` request asks only what is
allowed and is answered on every path without reaching an endpoint. -/
def respondToAny [Monad m] (router : Router m) (request : Request) : m Response :=
  if request.method = "OPTIONS" then
    let allow := (router.find? request.target.path).map fun (resource, _) =>
      ("allow", resource.allow)
    return { status := 200
             headers := [("access-control-allow-origin", "*"),
               ("access-control-allow-methods", "*"), ("access-control-allow-headers", "*")] ++
               allow.toList }
  else (·.withHeader "access-control-allow-origin" "*") <$> router.respond request

end Router

end Rowgate.Http
