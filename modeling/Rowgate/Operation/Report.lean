import Rowgate.Operation.Error
import Rowgate.Store.Session
/-
What an operation reports, and what is made of it.

A report carries the outcome of a statement, an error, both or neither. Settling it yields success
or a failure. That no row was touched is looked at last and wins over everything; an unknown count
is taken for none, while a report without an outcome says nothing about rows.
-/
set_option autoImplicit false

namespace Rowgate.Operation

/-! ## Failures -/

/-- The side of a call that carried a value of another type. -/
inductive Position where
  | input
  | output
deriving DecidableEq, Repr

def Position.name : Position → String
  | .input => "input"
  | .output => "output"

/-- Why a handler did not succeed. -/
inductive Failure where
  | invalidType (position : Position) (expected : String)
  | notFound
  | decode (text : String)
  | operation (e : OpError)
deriving DecidableEq, Repr

namespace Failure

def message : Failure → String
  | .invalidType position expected =>
    "invalid type of " ++ position.name ++ ", expected: " ++ expected
  | .notFound => "not found"
  | .decode text => "invalid request: " ++ text
  | .operation e => e.message

def status : Failure → Status
  | .invalidType .. => .internal
  | .notFound => .notFound
  | .decode _ => .invalidArgument
  | .operation e => e.toStatus

def isNotFound : Failure → Bool
  | .notFound => true
  | _ => false

end Failure

/-! ## Reports -/

structure Report where
  outcome : Option Store.Outcome := none
  error : Option OpError := none
deriving DecidableEq

namespace Report

def success : Report := {}

def withOutcome (outcome : Store.Outcome) : Report := { outcome := some outcome }

def failed (e : OpError) : Report := { error := some e }

def andOutcome (report : Report) (outcome : Store.Outcome) : Report :=
  { report with outcome := some outcome }

/-- The report of a write that counts its rows. -/
def ofOutcome : Except OpError Store.Outcome → Report
  | .ok outcome => withOutcome outcome
  | .error e => failed e

/-- The report of a task with no outcome. -/
def ofUnit : Except OpError Unit → Report
  | .ok () => success
  | .error e => failed e

/-- Whether a statement ran and touched no row, as far as is known. -/
def touchedNothing (report : Report) : Bool :=
  report.outcome.any Store.Outcome.touchedNothing

/-- What the error alone comes to. -/
def errorResult (report : Report) : Except Failure Unit :=
  match report.error with
  | none => .ok ()
  | some e => .error (if e.isNoRows then .notFound else .operation e)

/-- **Settling.** A report that touched nothing is a row not found whatever its error; any other
comes to what its error comes to. -/
def settle (report : Report) : Except Failure Unit :=
  if report.touchedNothing then .error .notFound else report.errorResult

end Report

end Rowgate.Operation
