import Rowgate.Sql.Query
import Rowgate.Store.Error
import Rowgate.Text.Integer
/-
Sessions: executing rendered statements.

A session is the state of a connection pool: whether it was closed, what answers, and the log of
what was sent. Executing a statement on an open session whose link is up appends exactly that
statement to the log and consumes one reply; on a closed session, and on a link that is down,
nothing is sent and the error is one that counts as unavailable.
-/
set_option autoImplicit false

namespace Rowgate.Store

/-! ## Parameters -/

/-- A bound value as it is sent. -/
inductive Param where
  | text (value : String)
  | int4 (value : Int)
  | int8 (value : Int)
  | float8 (value : Double)
  | bool (value : Bool)
  | null
  | json (value : Json)
deriving DecidableEq

/-- **Binding.** A string is text whatever it looks like. An integer takes the narrowest of the two
integer types that holds it; one past both is sent as the nearest double. Arrays and objects are
sent as they are. -/
def Param.ofJson : Json → Param
  | .string s => .text s
  | .int n =>
    if (Text.IntegerRange.signed 32).contains n then .int4 n
    else if (Text.IntegerRange.signed 64).contains n then .int8 n
    else .float8 (Binary.ofInt n)
  | .float x => .float8 x
  | .bool b => .bool b
  | .null => .null
  | .array items => .json (.array items)
  | .object members => .json (.object members)

/-- A statement as it is sent. -/
structure Sent where
  sql : String
  params : List Param
deriving DecidableEq

/-- What a rendered statement sends. -/
def Sent.ofRendered (r : Sql.Rendered) : Sent := ⟨r.text, r.values.map Param.ofJson⟩

/-! ## Replies -/

/-- A column of a result, with the name of its type. -/
structure Column where
  name : String
  type : String := "text"
deriving DecidableEq, Repr

/-- The rows that a statement gave, as texts, and the tag that closes them. -/
structure Answer where
  columns : List Column := []
  rows : List (List (Option String)) := []
  tag : String := "SELECT 0"
deriving DecidableEq, Repr

/-- What the server says to one statement. -/
inductive Reply where
  | answer (a : Answer)
  | refusal (code text : String)
deriving DecidableEq, Repr

/-- One row: a text or null for each column. -/
abbrev Row := List (String × Option String)

namespace Answer

/-- The rows with their column names. -/
def namedRows (a : Answer) : List Row := a.rows.map fun cells => (a.columns.map (·.name)).zip cells

/-- The count that ends the tag: its last word, or zero if that is no count. -/
def rowsAffected (a : Answer) : Nat :=
  let word := (a.tag.toList.reverse.takeWhile (· != ' ')).reverse
  (((Text.IntegerRange.unsigned 64).read? (String.ofList word)).getD 0).toNat

/-- The integer in the first column of the first row. -/
def firstInteger (a : Answer) : Except LinkError Int :=
  match a.rows, a.columns with
  | [], _ => .error .rowNotFound
  | (some cell :: _) :: _, column :: _ =>
    if column.type = "int8" then
      match (Text.IntegerRange.signed 64).read? cell with
      | some n => .ok n
      | none => .error (.columnDecode column.name "not an integer")
    else .error (.columnDecode column.name ("not of type int8: " ++ column.type))
  | _, _ => .error (.columnDecode "0" "no value")

end Answer

/-! ## Sessions -/

/-- The way to the server: replies that will come in turn, or a connection that cannot be made. -/
inductive Link where
  | up (replies : List Reply)
  | down (text : String)
deriving DecidableEq, Repr

/-- The state of a connection pool. -/
structure Session where
  link : Link
  closed : Bool := false
  sent : List Sent := []
deriving DecidableEq

namespace Session

/-- No statement is taken any more. -/
def close (session : Session) : Session := { session with closed := true }

/-- Sends a statement and waits for its answer. A server that has nothing more to say answers with
no rows. -/
def execute (statement : Sent) (session : Session) : Except LinkError Answer × Session :=
  if session.closed then (.error .poolClosed, session)
  else match session.link with
    | .down text => (.error (.io text), session)
    | .up replies =>
      let session' : Session :=
      { session with link := .up (replies.drop 1), sent := session.sent ++ [statement] }
      match replies.head? with
      | none => (.ok {}, session')
      | some (.answer a) => (.ok a, session')
      | some (.refusal code text) => (.error (.server code text), session')

end Session

/-- A computation on a session that can fail. -/
abbrev Run (α : Type) := Session → Except StoreError α × Session

/-- Sends what was rendered, unless rendering was refused, and reads the answer. -/
def sending {α : Type} (rendered : Except StoreError Sql.Rendered)
    (read : Answer → Except LinkError α) : Run α := fun session =>
  match rendered with
  | .error e => (.error e, session)
  | .ok r =>
    let (result, session') := session.execute (.ofRendered r)
    ((result.bind read).mapError .database, session')

/-! ## Outcomes -/

/-- How many rows a statement changed, where that is known. -/
structure Outcome where
  rowsAffected : Option Nat
deriving DecidableEq, Repr

namespace Outcome

def known (rows : Nat) : Outcome := ⟨some rows⟩

def unknown : Outcome := ⟨none⟩

/-- An unknown count counts as none. -/
def touchedNothing (o : Outcome) : Bool := o.rowsAffected.getD 0 == 0

end Outcome

/-- Executes a write and counts the rows it changed. -/
def executing (rendered : Except StoreError Sql.Rendered) : Run Outcome :=
  sending rendered fun a => .ok (.known a.rowsAffected)

/-- Executes a write that gives back rows, and reads what each of them holds; their number is the
count. The first row that cannot be read is an error, whatever was written. -/
def fetching {ρ : Type} (rendered : Except StoreError Sql.Rendered)
    (read : Row → Except LinkError ρ) : Run (List ρ × Outcome) :=
  sending rendered fun a => do
    let rows ← a.namedRows.mapM read
    return (rows, .known rows.length)

end Rowgate.Store
