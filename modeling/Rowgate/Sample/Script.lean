import Rowgate.Config.Error
import Rowgate.Operation.Report
/-
Reports and errors spelled as JSON, for operations that do as they are told.

An error is an object with one member, which says where it comes from. A report is an object with an
outcome and an error, both of which may be absent, and perhaps the name of the way in which it is
put together.
-/
set_option autoImplicit false

namespace Rowgate.Sample.Script

open Operation (Failure OpError Report Status)
open Store (LinkError Outcome StoreError)

/-- How a script is read; it is read as nothing if it is malformed. -/
structure Reader where
  /-- what becomes of an error that the server reports with a code and a text -/
  refusal : String → String → LinkError := .server
  /-- the key under which an error of the link stands where others may stand too -/
  linkKey : String := "link"

/-- The text under a key; an absent one is empty. -/
def text (v : Json) (key : String) : String :=
  match v.member? key with
  | some (.string s) => s
  | _ => ""

namespace Reader

def linkError? (reader : Reader) (v : Json) : Option LinkError :=
  let t := text v "text"
  match text v "k" with
  | "row_not_found" => some .rowNotFound
  | "pool_timed_out" => some .poolTimedOut
  | "pool_closed" => some .poolClosed
  | "worker_crashed" => some .workerCrashed
  | "io" => some (.io t)
  | "protocol" => some (.protocol t)
  | "column_not_found" => some (.columnNotFound t)
  | "configuration" => some (.configuration t)
  | "pg" => some (reader.refusal (text v "code") t)
  | _ => none

/-- The error of a name that is refused. -/
def refusedName? {α : Type} : Except Sql.NameError α → Option StoreError
  | .error e => some (.validation e)
  | .ok _ => none

def storeError? (reader : Reader) (v : Json) : Option StoreError :=
  match text v "k" with
  | "identifier" => refusedName? (Sql.Identifier.ofName (text v "name"))
  | "type" => refusedName? (Sql.ColumnType.ofName (text v "name"))
  | "invalid_query" => some (.invalidQuery (text v "table") (text v "reason"))
  | "serialization" => some (.serialization (text v "text"))
  | _ => (reader.linkError? v).map .database

def opError? (reader : Reader) : Json → Option OpError
  | .object [("store", e)] => (reader.storeError? e).map .store
  | .object [("from_store", e)] => (reader.storeError? e).map .ofStore
  | .object [("status", .array [.string code, .string message])] =>
    (Status.ofCode? code).map (.status · message)
  | .object [("already_exists", .string message)] => some (.alreadyExists message)
  | .object [("invalid_argument", .string message)] => some (.invalidArgument message)
  | .object [("other", .string text)] => some (.other text)
  | .object [("other_context", .array [_, .string text])] => some (.other text)
  | .object [("other_store", e)] => (reader.storeError? e).map fun e => .other e.message
  | .object [(key, e)] =>
    if key = reader.linkKey then (reader.linkError? e).map fun e => .store (.database e) else none
  | _ => none

def failure? (reader : Reader) : Json → Option Failure
  | .string "not_found" => some .notFound
  | .object [("decode", .string text)] => some (.decode text)
  | .object [("invalid_type", .array [.string "input", .string expected])] =>
    some (.invalidType .input expected)
  | .object [("invalid_type", .array [.string "output", .string expected])] =>
    some (.invalidType .output expected)
  | .object [("operation", e)] => (reader.opError? e).map .operation
  | _ => none

def setupError? (reader : Reader) : Json → Option SetupError
  | .object [("store", e)] => (reader.storeError? e).map .store
  | .object [("config", .string text)] => some (.config (.invalid text))
  | .object [("config_io", .string text)] => some (.config (.io (.other text)))
  | .object [("io", .string text)] => some (.io (.other text))
  | .object [("addr", _)] => some .badAddress
  | .object [("unresolvable", .string address)] => some (.unresolvable address)
  | .object [("serialization", .string text)] => some (.serialization text)
  | .object [(key, e)] => if key = reader.linkKey then (reader.linkError? e).map .database else none
  | _ => none

end Reader

/-- A number of rows, or a word for an unknown one. -/
def outcome? : Json → Option Outcome
  | .string "unknown" | .string "default" => some .unknown
  | .int n => some (.known n.toNat)
  | _ => none

/-- The value of a member that is neither absent nor null, read. -/
def optional? {α : Type} (read : Json → Option α) (v : Json) (key : String) : Option (Option α) :=
  match v.member? key with
  | none | some .null => some none
  | some x => (read x).map some

/-- The report that a script spells. Parts that its way of being put together does not use are
passed over. -/
def Reader.report? (reader : Reader) (v : Json) : Option Report := do
  let outcome ← optional? outcome? v "outcome"
  let error ← optional? reader.opError? v "error"
  match text v "via" with
  | "" => return ⟨outcome, error⟩
  | "success" => return .success
  | "with_outcome" => return .withOutcome (← outcome)
  | "failed" => return .failed (← error)
  | "failed_and_outcome" => return (Report.failed (← error)).andOutcome (← outcome)
  | "success_and_outcome" => return Report.success.andOutcome (← outcome)
  | "result_outcome" =>
    match outcome with
    | some o => return .ofOutcome (.ok o)
    | none => return .ofOutcome (.error (← error))
  | "result_unit" =>
    match error with
    | some e => return .ofUnit (.error e)
    | none => return .ofUnit (.ok ())
  | _ => none

end Rowgate.Sample.Script
