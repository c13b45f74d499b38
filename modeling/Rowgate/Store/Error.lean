import Rowgate.Sql.Name
/-
What can go wrong between a statement and its rows.

A `LinkError` is what the connection to the database reports; a `StoreError` adds the refusals that
come before anything is sent. A query that found no row is an error with a text of its own, the
sentinel `noRowsMessage`. Every other store error has a text that starts with a heading ending in a
colon and a blank, and no heading is the beginning of the sentinel.
-/
set_option autoImplicit false

namespace Rowgate.Store

/-- Errors of the connection to the database. -/
inductive LinkError where
  | rowNotFound
  | poolTimedOut
  | poolClosed
  | workerCrashed
  | io (text : String)
  | protocol (text : String)
  | columnNotFound (name : String)
  | columnDecode (column text : String)
  | configuration (text : String)
  | server (code text : String)
  /-- any other error, of which only the text is known -/
  | other (text : String)
deriving DecidableEq, Repr

namespace LinkError

def message : LinkError → String
  | .rowNotFound => "no rows returned by a query that expected to return at least one row"
  | .poolTimedOut => "pool timed out while waiting for an open connection"
  | .poolClosed => "attempted to acquire a connection on a closed pool"
  | .workerCrashed => "attempted to communicate with a crashed background worker"
  | .io text => "error communicating with database: " ++ text
  | .protocol text => "encountered unexpected or invalid data: " ++ text
  | .columnNotFound name => "no column found for name: " ++ name
  | .columnDecode column text =>
    "error occurred while decoding column " ++ column ++ ": " ++ text
  | .configuration text => "error with configuration: " ++ text
  | .server _ text => "error returned from database: " ++ text
  | .other text => text

/-- The code by which the server reports a key that exists already. -/
def uniqueViolationCode : String := "23505"

end LinkError

/-- Errors of a statement. -/
inductive StoreError where
  | database (e : LinkError)
  | validation (e : Sql.NameError)
  | invalidQuery (table reason : String)
  | serialization (text : String)
deriving DecidableEq, Repr

/-- The text of a query that found no row. -/
def noRowsMessage : String := "sql: no rows in result set"

namespace StoreError

def message : StoreError → String
  | .database .rowNotFound => noRowsMessage
  | .database e => "Database error: " ++ e.message
  | .validation e => "Invalid identifier: " ++ e.message
  | .invalidQuery table reason => "Invalid query on " ++ table ++ ": " ++ reason
  | .serialization text => "Serialization error: " ++ text

/-- Whether a row was expected and none came. -/
def isNoRows : StoreError → Bool
  | .database .rowNotFound => true
  | _ => false

/-- Whether the server refused a key that exists already. -/
def isUniqueViolation : StoreError → Bool
  | .database (.server code _) => code == LinkError.uniqueViolationCode
  | _ => false

/-- Whether the database could not be reached. -/
def isUnavailable : StoreError → Bool
  | .database .poolTimedOut => true
  | .database .poolClosed => true
  | .database (.io _) => true
  | _ => false

end StoreError

/-- Runs a check of names as a step of a statement. -/
def checked {α : Type} (result : Except Sql.NameError α) : Except StoreError α :=
  result.mapError .validation

end Rowgate.Store
