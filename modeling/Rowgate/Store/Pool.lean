import Rowgate.Config.Database
import Rowgate.Store.Session
import Rowgate.Url.Basic
/-
Pools of connections to a database.

A pool is opened from a configuration without making a connection; what can fail then is only the
configuration or its connection string. Zero limits have a meaning of their own, see
`PoolOptions.ofConfig`.
-/
set_option autoImplicit false

namespace Rowgate.Store

/-! ## Options -/

/-- How a pool keeps its connections; times are in seconds. -/
structure PoolOptions where
  maxConnections : Nat
  minConnections : Nat
  idleTimeout : Option Nat
  maxLifetime : Option Nat
  acquireTimeout : Nat
deriving DecidableEq, Repr

/-- How long a connection may be idle where none are to be kept. -/
def idleCloseAfter : Nat := 1

/-- How long a connection may be idle otherwise. -/
def usualIdleTimeout : Nat := 600

/-- How long a connection is waited for, unless configured. -/
def usualAcquireTimeout : Nat := 30

/-- The options of a configuration. The number of idle connections that may be kept is the number
that is kept; where it is zero, idle connections are closed soon. -/
def PoolOptions.ofConfig (c : DatabaseConfig) : PoolOptions where
  maxConnections := c.maxConnections
  minConnections := c.maxIdleConnections
  idleTimeout := some (if c.maxIdleConnections = 0 then idleCloseAfter else usualIdleTimeout)
  maxLifetime := if 0 < c.maxLifetimeSeconds then some c.maxLifetimeSeconds else none
  acquireTimeout :=
    if 0 < c.acquireTimeoutSeconds then c.acquireTimeoutSeconds else usualAcquireTimeout

/-! ## Where the database is -/

/-- What a connection string names. -/
structure Destination where
  host : String := "localhost"
  port : Nat := 5432
  username : String
  database : Option String := none
deriving DecidableEq, Repr

/-- The ways of securing a connection. -/
def sslModes : List String := ["disable", "allow", "prefer", "require", "verify-ca", "verify-full"]

namespace Destination

/-- The host that a text names; one that starts with a slash is a file, not a host. -/
def withHost (d : Destination) (host : String) : Destination :=
  if host.startsWith "/" then d else { d with host }

/-- The host of a URL, which stays percent-encoded. One that stands for a file is no host; the bytes
that it encodes are text. -/
def withUrlHost (d : Destination) (host : String) : Option Destination :=
  let bytes := Percent.decode (Utf8.encode host)
  if bytes.head? = some 0x2F then (Utf8.decode? bytes).map fun _ => d
  else some { d with host }

/-- Whether a text is an address of the internet protocol. -/
def isAddress (s : String) : Bool :=
  (match s.toList.splitOn '.' with
    | [a, b, c, d] => [a, b, c, d].all fun part => (Url.decimalByte? part).isSome
    | _ => false) || (Url.readAddress? s.toList).isSome

/-- Applies one parameter of a connection string; unknown ones are passed over. -/
def withParameter (d : Destination) (key value : String) : Option Destination :=
  if key = "sslmode" ∨ key = "ssl-mode" then
    if sslModes.contains value.toLower then some d else none
  else if key = "statement-cache-capacity" then
    ((Text.IntegerRange.unsigned 64).read? value).map fun _ => d
  else if key = "host" then some (d.withHost value)
  else if key = "hostaddr" then if isAddress value then some { d with host := value } else none
  else if key = "port" then
    ((Text.IntegerRange.unsigned 16).read? value).map fun n => { d with port := n.toNat }
  else if key = "dbname" then some { d with database := some value }
  else if key = "user" then some { d with username := value }
  else some d

/-- Applies parameters in turn. -/
def withParameters (d : Destination) : List (String × String) → Option Destination
  | [] => some d
  | (key, value) :: rest => (d.withParameter key value).bind fun d => d.withParameters rest

/-- What a connection string names, if it can be read. -/
def ofString? (s : String) : Option Destination := do
  let url ← Url.ofString? s
  let username ← Percent.decodeText? url.username
  let _ ← Percent.decodeText? (url.password.getD "")
  let path := String.ofList (url.path.toList.dropWhile (· == '/'))
  let database ← Percent.decodeText? path
  let d : Destination := { username, port := url.port.getD 5432
                           database := if path.isEmpty then none else some database }
  (← d.withUrlHost url.host).withParameters url.queryPairs

end Destination

/-! ## Pools -/

/-- An open pool: how it keeps connections, where they go, and the session on it. -/
structure Pool where
  options : PoolOptions
  destination : Destination
  session : Session
deriving DecidableEq

namespace Pool

/-- Opens a pool without connecting; `link` is what will answer. -/
def ofConfig (c : DatabaseConfig) (link : Link) : Except SetupError Pool := do
  c.validate.mapError .config
  match Destination.ofString? c.connectionString with
  | none => throw (.database (.configuration c.connectionString))
  | some destination => return ⟨.ofConfig c, destination, { link }⟩

/-- The statement that asks for a sign of life. -/
def healthStatement : Sent := ⟨"SELECT 1", []⟩

/-- Makes a first connection. -/
def connect (pool : Pool) : Except SetupError Pool :=
  match pool.session.link with
  | .down text => .error (.database (.io text))
  | .up _ => .ok pool

/-- Asks the database for a sign of life: one row. -/
def checkHealth (session : Session) : Except LinkError Unit × Session :=
  let (result, session) := session.execute healthStatement
  (result.bind fun a => if a.rows.isEmpty then .error .rowNotFound else .ok (), session)

end Pool

end Rowgate.Store
