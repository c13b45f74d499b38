import Rowgate.Config.Database
import Rowgate.Toml.Parser
/-
The configuration of a service: its database and its server.

It is taken from the file that a variable names, else from the usual file if there is one, else from
the defaults; the environment has the last word on the host of the database, and the result is
checked again.
-/
set_option autoImplicit false

namespace Rowgate

open Input (Datum Shape)

/-! ## The server -/

structure ServerConfig where
  host : String := "localhost"
  port : Nat := 3000
  /-- where the catalog is written, if it is -/
  catalogPath : Option String := some "openapi.json"
deriving DecidableEq, Repr

namespace ServerConfig

/-- An optional text as a datum. -/
def optionalText : Option String → Datum
  | some s => .some (.text s)
  | none => .none

/-- The shape of the configuration; every field has its default. -/
def shape : Shape :=
  let d : ServerConfig := {}
  .record "ServerConfig" [
    DatabaseConfig.textField "host" d.host,
    DatabaseConfig.numberField 16 "port" d.port,
    ({ key := "catalog_path", fallback := some (optionalText d.catalogPath) }, .option .string)]
    false

def ofDatum (d : Datum) : ServerConfig where
  host := (d.field "host").asText
  port := (d.field "port").asNat
  catalogPath := (d.field "catalog_path").asText?

/-- The configuration as a datum of its shape. -/
def toDatum (c : ServerConfig) : Datum :=
  .record [("host", .text c.host), ("port", .integer c.port),
    ("catalog_path", optionalText c.catalogPath)]

/-- The configuration that a JSON value spells. -/
def ofJson (v : Json) : Except Input.DecodeError ServerConfig :=
  (shape.decode (.json v)).map ofDatum

/-- The address to listen on. -/
def bindAddress (c : ServerConfig) : String := c.host ++ ":" ++ toString c.port

/-- Refuses what cannot work; the first fault is named. -/
def validate (c : ServerConfig) : Except ConfigError Unit := do
  if c.host.isEmpty then throw (.invalid "Server host cannot be empty")
  if c.catalogPath = some "" then throw (.invalid "Server catalog_path cannot be empty")

end ServerConfig

/-! ## The whole -/

structure AppConfig where
  database : DatabaseConfig := {}
  server : ServerConfig := {}
deriving DecidableEq, Repr

namespace AppConfig

/-- The shape of a configuration file; both parts have their defaults. -/
def shape : Shape :=
  .record "AppConfig" [
    ({ key := "database", fallback := some (({} : DatabaseConfig).toDatum) }, DatabaseConfig.shape),
    ({ key := "server", fallback := some (({} : ServerConfig).toDatum) }, ServerConfig.shape)] false

def ofDatum (d : Datum) : AppConfig :=
  ⟨.ofDatum (d.field "database"), .ofDatum (d.field "server")⟩

/-- Refuses what cannot work, the database first. -/
def validate (c : AppConfig) : Except ConfigError Unit := do
  c.database.validate
  c.server.validate

/-- A document as JSON. A part may be written as the row of its fields; what stands behind the last
field is never looked at. -/
def document? (text : String) : Option Json := do
  let v ← Toml.parse? text
  let v := v.takeRow "database" DatabaseConfig.shape.width
  let v := v.takeRow "server" ServerConfig.shape.width
  v.toJson?

/-- The configuration that a text spells, unchecked. -/
def spelled? (text : String) : Option AppConfig := do
  let d ← (shape.decode (.json (← document? text))).toOption
  return ofDatum d

/-- The configuration that a text spells, unchecked; a text that spells none gets a diagnosis. -/
def read (diagnose : String → Toml.Diagnosis) (text : String) : Except ConfigError AppConfig :=
  match spelled? text with
  | some c => .ok c
  | none => .error (.malformedFile (diagnose text))

/-- The configuration that a text spells, checked. -/
def ofToml (diagnose : String → Toml.Diagnosis) (text : String) : Except ConfigError AppConfig := do
  let c ← read diagnose text
  c.validate
  return c

/-- The configuration in a file. -/
def ofFile (diagnose : String → Toml.Diagnosis) (file : Except SystemError (List UInt8)) :
    Except ConfigError AppConfig :=
  match file with
  | .error e => .error (.io e)
  | .ok bytes =>
    match Utf8.decode? bytes with
    | none => .error (.io .notText)
    | some text => ofToml diagnose text

/-- The defaults with the host of the database from the environment. -/
def ofEnvironment (env : Config.Environment) : AppConfig :=
  { database := .ofEnvironment env }

/-- Takes the host of the database from the environment, if it is set there and not empty. -/
def withEnvironment (c : AppConfig) (env : Config.Environment) : AppConfig :=
  { c with database := c.database.withEnvironment env }

end AppConfig

end Rowgate
