import Rowgate.Handler.Dispatch
import Rowgate.Http.Router
import Rowgate.Input.Decode
/-
Handlers as endpoints.

A request is decoded into the input of the operation, the handler is called, and its result becomes
the response. A request that does not decode never reaches the operation. The three sources of a
request are looked at in turn: first the parameters of the path have to spell texts, then the body
has to be an object, and last the fields have to fit the input.
-/
set_option autoImplicit false

namespace Rowgate.Http

open Operation (Failure Status)
open Input (Fields DecodeError BodyError)

/-! ## Failures as responses -/

/-- The message that a failure shows: what is wrong inside stays inside. -/
def shownMessage (failure : Failure) : String :=
  match failure with
  | .invalidType .. => Status.internal.message
  | .notFound => failure.status.message
  | other => other.message

/-- A failure as a response. -/
def Response.ofFailure (failure : Failure) : Response :=
  .json failure.status.http
    (.object [("error", .string failure.status.code), ("message", .string (shownMessage failure))])

/-- An output as a response; one that cannot be written shows the reason as plain text, under the
status of success. -/
def Response.ofOutput : Except String Json → Response
  | .ok value => .json 200 value
  | .error reason => .text 200 reason

/-! ## Decoding a request -/

/-- The texts that the parameters stand for; the first that spells none is refused. -/
def decodeCaptures : Captures → Except Failure (List (String × String))
  | [] => .ok []
  | (name, text) :: rest =>
    match Percent.decodeText? text with
    | none => .error (.decode ("Invalid URL: Invalid UTF-8 in `" ++ name ++ "`"))
    | some text => do return (name, text) :: (← decodeCaptures rest)

/-- The fields of a request. -/
def requestFields (captures : Captures) (request : Request) : Except Failure Fields := do
  let path ← decodeCaptures captures
  if Input.maxBodyBytes < request.body.length then
    throw (.decode BodyError.tooLong.message)
  (Input.gather request.body request.target.query path).mapError fun e => .decode e.message

/-- How the values of an operation are read from fields and written as JSON. -/
structure Codec (ι ο : Type) where
  read : Fields → Except DecodeError ι
  write : ο → Except String Json

namespace Codec

variable {ι ο : Type}

/-- The input that fields spell. -/
def input (codec : Codec ι ο) (fields : Fields) : Except Failure ι :=
  (codec.read fields).mapError fun e => .decode e.message

/-- The input of a request. -/
def ofRequest (codec : Codec ι ο) (captures : Captures) (request : Request) : Except Failure ι := do
  codec.input (← requestFields captures request)

end Codec

/-! ## Handlers -/

/-- The answer of a handler to a request. -/
def handle {m : Type → Type} {ι ο : Type} [Monad m] [Inhabited ο] (codec : Codec ι ο)
    (handler : Handler m ι ο) (captures : Captures) (request : Request) : m Response :=
  match codec.ofRequest captures request with
  | .error failure => return .ofFailure failure
  | .ok input => do
    let result ← handler.call ⟨handler.descriptor.mainTag⟩ input
    return match result with
      | .ok output => .ofOutput (codec.write output)
      | .error failure => .ofFailure failure

end Rowgate.Http
