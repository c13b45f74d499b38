import Rowgate.Store.Error
/-
What can go wrong while a service is set up.

Errors of the configuration, of the system, of the database and of addresses, with their texts.
-/
set_option autoImplicit false

namespace Rowgate

/-- Refusals of the system. -/
inductive SystemError where
  | notFound
  | notDirectory
  | isDirectory
  | nameTooLong
  /-- a path holds the character zero -/
  | nulInName
  | addressInUse
  /-- the bytes of a file are not text -/
  | notText
  | other (text : String)
deriving DecidableEq, Repr

def SystemError.message : SystemError → String
  | .notFound => "No such file or directory (os error 2)"
  | .notDirectory => "Not a directory (os error 20)"
  | .isDirectory => "Is a directory (os error 21)"
  | .nameTooLong => "File name too long (os error 36)"
  | .nulInName => "file name contained an unexpected NUL byte"
  | .addressInUse => "Address already in use (os error 98)"
  | .notText => "stream did not contain valid UTF-8"
  | .other text => text

/-- What the reader of a document says of one that it refuses, and the bytes that it is about. -/
structure Toml.Diagnosis where
  text : String
  span : Option (Nat × Nat)
deriving DecidableEq, Repr

/-- Why a configuration cannot be had. -/
inductive ConfigError where
  | io (e : SystemError)
  /-- the text of the file is no configuration -/
  | malformedFile (diagnosis : Toml.Diagnosis)
  /-- the file of environment variables has a line that is none -/
  | malformedEnvironment (text : String)
  /-- the file of environment variables is there and cannot be read -/
  | unreadableEnvironment (e : SystemError)
  /-- the file of environment variables has a value that no variable can hold -/
  | unsettableVariable
  | invalid (text : String)
deriving DecidableEq, Repr

def ConfigError.message : ConfigError → String
  | .io e => "IO error: " ++ e.message
  | .malformedFile diagnosis => "TOML parsing error: " ++ diagnosis.text
  | .malformedEnvironment text => "Dotenvy error: " ++ text
  | .unreadableEnvironment e => "Dotenvy error: " ++ e.message
  | .unsettableVariable => "Environment variable cannot be set"
  | .invalid text => "Invalid configuration: " ++ text

/-- Why a service cannot be set up. -/
inductive SetupError where
  | database (e : Store.LinkError)
  | config (e : ConfigError)
  | store (e : Store.StoreError)
  | io (e : SystemError)
  /-- a listen address that is none -/
  | badAddress
  | unresolvable (address : String)
  | serialization (text : String)
deriving DecidableEq, Repr

def SetupError.message : SetupError → String
  | .database e => "Database connection error: " ++ e.message
  | .config e => "Configuration error: " ++ e.message
  | .store e => e.message
  | .io e => "I/O error: " ++ e.message
  | .badAddress => "Invalid listen address: invalid socket address syntax"
  | .unresolvable address => "Could not resolve listen address " ++ address
  | .serialization text => "Serialization error: " ++ text

end Rowgate
