import Rowgate.Operation.Status
import Rowgate.Store.Error
/-
Errors that an operation reports.

An error is one of the store, one that the operation classified itself, or any other, of which only
the text is known. An error says that there is no row if it is the store's error for it, or if its
text is exactly the text of that error.
-/
set_option autoImplicit false

namespace Rowgate.Operation

inductive OpError where
  | store (e : Store.StoreError)
  | status (status : Status) (message : String)
  | other (text : String)
deriving DecidableEq, Repr

namespace OpError

def alreadyExists (message : String) : OpError := .status .alreadyExists message

def invalidArgument (message : String) : OpError := .status .invalidArgument message

/-- Takes over an error of the store; a key that exists already becomes a status. -/
def ofStore (e : Store.StoreError) : OpError :=
  if e.isUniqueViolation then alreadyExists e.message else .store e

def message : OpError → String
  | .store e => e.message
  | .status _ message => message
  | .other text => text

/-- Whether a row was expected and none came. -/
def isNoRows : OpError → Bool
  | .store e => e.isNoRows || e.message == Store.noRowsMessage
  | e => e.message == Store.noRowsMessage

/-- The status that answers the error. -/
def toStatus : OpError → Status
  | .status s _ => s
  | .store e =>
    if e.isUnavailable then .unavailable
    else if e.isUniqueViolation then .alreadyExists
    else .internal
  | .other _ => .internal

end OpError

end Rowgate.Operation
