import Rowgate.Config.EnvFile
import Rowgate.Config.Error
import Rowgate.Input.Decode
/-
The configuration of the database.

Only the credentials are percent-encoded in the connection string; the other parts stand in it as
they are configured.
-/
set_option autoImplicit false

namespace Rowgate

structure DatabaseConfig where
  host : String := "localhost"
  port : Nat := 5432
  driver : String := "postgres"
  database : String := "di"
  username : String := "postgres"
  password : String := "password"
  sslMode : String := "disable"
  maxConnections : Nat := 3
  /-- idle connections that the pool keeps; with none, they close soon -/
  maxIdleConnections : Nat := 0
  /-- how long a connection may live; zero is for ever -/
  maxLifetimeSeconds : Nat := 0
  /-- how long to wait for a connection; zero is the usual time -/
  acquireTimeoutSeconds : Nat := 0
deriving DecidableEq, Repr

namespace DatabaseConfig

/-! ## Reading -/

open Input (Datum Label Shape)

/-- A field with a text. -/
def textField (key default : String) : Label × Shape :=
  ({ key, fallback := some (.text default) }, .string)

/-- A field with a number of some bits. -/
def numberField (bits : Nat) (key : String) (default : Nat) : Label × Shape :=
  ({ key, fallback := some (.integer default) }, .integer (.unsigned bits))

/-- The shape of the configuration; every field has its default. -/
def shape : Shape :=
  let d : DatabaseConfig := {}
  .record "DatabaseConfig" [
    textField "host" d.host,
    numberField 16 "port" d.port,
    textField "driver" d.driver,
    textField "database" d.database,
    textField "username" d.username,
    textField "password" d.password,
    textField "ssl_mode" d.sslMode,
    numberField 32 "max_connections" d.maxConnections,
    numberField 32 "max_idle_connections" d.maxIdleConnections,
    numberField 64 "max_lifetime_seconds" d.maxLifetimeSeconds,
    numberField 64 "acquire_timeout_seconds" d.acquireTimeoutSeconds] false

def ofDatum (d : Datum) : DatabaseConfig where
  host := (d.field "host").asText
  port := (d.field "port").asNat
  driver := (d.field "driver").asText
  database := (d.field "database").asText
  username := (d.field "username").asText
  password := (d.field "password").asText
  sslMode := (d.field "ssl_mode").asText
  maxConnections := (d.field "max_connections").asNat
  maxIdleConnections := (d.field "max_idle_connections").asNat
  maxLifetimeSeconds := (d.field "max_lifetime_seconds").asNat
  acquireTimeoutSeconds := (d.field "acquire_timeout_seconds").asNat

/-- The configuration as a datum of its shape. -/
def toDatum (c : DatabaseConfig) : Datum :=
  .record [
    ("host", .text c.host),
    ("port", .integer c.port),
    ("driver", .text c.driver),
    ("database", .text c.database),
    ("username", .text c.username),
    ("password", .text c.password),
    ("ssl_mode", .text c.sslMode),
    ("max_connections", .integer c.maxConnections),
    ("max_idle_connections", .integer c.maxIdleConnections),
    ("max_lifetime_seconds", .integer c.maxLifetimeSeconds),
    ("acquire_timeout_seconds", .integer c.acquireTimeoutSeconds)]

/-- The configuration that a JSON value spells. -/
def ofJson (v : Json) : Except Input.DecodeError DatabaseConfig :=
  (shape.decode (.json v)).map ofDatum

/-! ## Choosing -/

def withHost (c : DatabaseConfig) (host : String) : DatabaseConfig := { c with host }

def withMaxConnections (c : DatabaseConfig) (n : Nat) : DatabaseConfig :=
  { c with maxConnections := n }

/-- The variable that names the host of the database. -/
def hostVariable : String := "WINDOWS_HOST"

/-- Takes the host from the environment, if it is set there and not empty. -/
def withEnvironment (c : DatabaseConfig) (env : Config.Environment) : DatabaseConfig :=
  match (env.get? hostVariable).filter (!·.isEmpty) with
  | some host => c.withHost host
  | none => c

/-- The defaults with the host from the environment. -/
def ofEnvironment (env : Config.Environment) : DatabaseConfig :=
  ({} : DatabaseConfig).withEnvironment env

/-! ## Using -/

/-- The drivers that are known. -/
def drivers : List String := ["postgres", "postgresql"]

/-- Refuses what cannot work; the first fault is named. -/
def validate (c : DatabaseConfig) : Except ConfigError Unit := do
  if c.host.isEmpty then throw (.invalid "Database host cannot be empty")
  if c.port = 0 then throw (.invalid "Database port cannot be zero")
  if !drivers.contains c.driver then
    throw (.invalid ("Unsupported database driver '" ++ c.driver ++ "'"))
  if c.database.isEmpty then throw (.invalid "Database name cannot be empty")
  if c.username.isEmpty then throw (.invalid "Database username cannot be empty")
  if c.maxConnections = 0 then
    throw (.invalid "Database max_connections must be greater than 0")
  if c.maxConnections < c.maxIdleConnections then
    throw (.invalid "Database max_idle_connections cannot be greater than max_connections")

/-- The address of the database. -/
def connectionString (c : DatabaseConfig) : String :=
  c.driver ++ "://" ++ Percent.encode c.username ++ ":" ++ Percent.encode c.password ++ "@" ++
    c.host ++ ":" ++ toString c.port ++ "/" ++ c.database ++ "?sslmode=" ++ c.sslMode

end DatabaseConfig

end Rowgate
