import Rowgate.Json.Value
/-
What an operation can come to other than success.

Each status has a code for error bodies, an HTTP status and a default message. The statuses are
ordered as they are listed, and so are the statuses that a handler declares.
-/
set_option autoImplicit false

namespace Rowgate.Operation

inductive Status where
  | invalidArgument
  | notFound
  | alreadyExists
  | unavailable
  | internal
deriving DecidableEq, Repr

namespace Status

/-- All statuses, in order. -/
def all : List Status := [.invalidArgument, .notFound, .alreadyExists, .unavailable, .internal]

/-- The code in an error body. -/
def code : Status → String
  | .invalidArgument => "invalid_argument"
  | .notFound => "not_found"
  | .alreadyExists => "already_exists"
  | .unavailable => "unavailable"
  | .internal => "internal"

/-- The HTTP status. -/
def http : Status → Nat
  | .invalidArgument => 400
  | .notFound => 404
  | .alreadyExists => 409
  | .unavailable => 503
  | .internal => 500

/-- The message when nothing more specific is known. -/
def message : Status → String
  | .invalidArgument => "invalid argument"
  | .notFound => "not found"
  | .alreadyExists => "already exists"
  | .unavailable => "service unavailable"
  | .internal => "internal error"

def toJson (s : Status) : Json := .string s.code

/-- The status of a code. -/
def ofCode? (code : String) : Option Status := all.find? (·.code == code)

end Status

/-! ## Sets of statuses -/

/-- A set of statuses. -/
structure StatusSet where
  contains : Status → Bool

namespace StatusSet

def empty : StatusSet := ⟨fun _ => false⟩

def insert (set : StatusSet) (s : Status) : StatusSet := ⟨fun t => t == s || set.contains t⟩

def erase (set : StatusSet) (s : Status) : StatusSet := ⟨fun t => t != s && set.contains t⟩

/-- The statuses of the set, in order. -/
def toList (set : StatusSet) : List Status := Status.all.filter set.contains

end StatusSet

end Rowgate.Operation
