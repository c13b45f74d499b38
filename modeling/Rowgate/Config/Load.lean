import Rowgate.Config.App
import Rowgate.Config.Files
/-
Loading the configuration of a process.

What a process sees is its environment and its files. A file of variables, if there is one in the
working directory or above it, adds to the environment what is missing there. The source is then the
file that a variable names, or the usual file if it exists, or the defaults.
-/
set_option autoImplicit false

namespace Rowgate.Config

/-! ## Places -/

/-- The variable that names the file. -/
def pathVariable : String := "ROUTEHAUS_CONFIG"

/-- The path of the usual file. -/
def usualPath : String := "./routehaus.toml"

/-- The name of the file of variables. -/
def variablesFile : String := ".env"

/-! ## Loading -/

/-- How files are refused. The words are those of the readers of the two formats. -/
structure Wording where
  /-- what is said of a text that is no configuration -/
  document : String → Toml.Diagnosis
  /-- what is said of a malformed file of variables -/
  environment : List UInt8 → String

/-- The environment with what the file of variables adds. -/
def effectiveEnvironment (wording : Wording) (env : ProcessEnvironment) (system : FileSystem) :
    Except ConfigError Environment :=
  match system.nearest? variablesFile with
  -- a file that is gone by the time it is opened counts as none
  | none | some (.error .notFound) => .ok env.readable
  | some (.error e) => .error (.unreadableEnvironment e)
  | some (.ok file) =>
    (EnvFile.extend env.readable file).mapError fun
      | .malformed => .malformedEnvironment (wording.environment file)
      | .unsettable => .unsettableVariable

/-- Where the configuration is taken from. -/
inductive ConfigSource where
  | file (path : String)
  | defaults
deriving DecidableEq, Repr

/-- The source that the effective environment selects. -/
def selectSource (env : Environment) (system : FileSystem) : ConfigSource :=
  match env.get? pathVariable with
  -- a file that is named has to be there; the defaults are no way out
  | some path => .file path
  | none => if system.contains usualPath then .file usualPath else .defaults

/-- The configuration of a source. -/
def readSource (wording : Wording) (env : Environment) (system : FileSystem) :
    ConfigSource → Except ConfigError AppConfig
  | .file path => AppConfig.ofFile wording.document (system.read path)
  | .defaults => .ok (AppConfig.ofEnvironment env)

/-- The configuration of a process. -/
def load (wording : Wording) (env : ProcessEnvironment) (system : FileSystem) :
    Except ConfigError AppConfig := do
  let env ← effectiveEnvironment wording env system
  let config ← readSource wording env system (selectSource env system)
  let config := config.withEnvironment env
  config.validate
  return config

end Rowgate.Config
