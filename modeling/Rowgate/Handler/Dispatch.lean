import Rowgate.Handler.Descriptor
import Rowgate.Operation.Basic
/-
Handlers: calling an operation.

The operation of a handler runs once for each call whose values have the right types, always on the
default output, and never for any other call. There are two ways in: `call` with a value of the
input type, and `dispatch` with values whose types are not known beforehand.
-/
set_option autoImplicit false

namespace Rowgate

open Operation (Context Failure)

/-- An operation with what is declared of it. -/
structure Handler (m : Type → Type) (ι ο : Type) where
  operation : Operation m ι ο
  descriptor : Handler.Descriptor

namespace Handler

variable {m : Type → Type} {ι ο φ : Type}

/-- The handler of an operation with settings; the names of its types are for error messages. -/
def build (operation : Operation m ι ο) (settings : Settings) (inputType outputType : String) :
    Handler m ι ο :=
  ⟨operation, .build settings inputType outputType⟩

/-- A value of unknown type: one of the type asked for, or a foreign one. -/
inductive Erased (φ α : Type) where
  | own (value : α)
  | foreign (value : φ)
deriving DecidableEq

section

variable [Monad m] [Inhabited ο]

/-- Runs the operation on the default output and settles its report. -/
def invoke (h : Handler m ι ο) (context : Context) (input : ι) :
    m (ο × Except Failure Unit) := do
  let (output, report) ← h.operation.perform context input default
  return (output, report.settle)

/-- The call with a value of the input type. -/
def call (h : Handler m ι ο) (context : Context) (input : ι) : m (Except Failure ο) := do
  let (output, result) ← h.invoke context input
  return result.map fun _ => output

/-- The call with values of unknown type: what becomes of the output, and the result. -/
def dispatch (h : Handler m ι ο) (context : Context) (input : Erased φ ι) (output : Erased φ ο) :
    m (Erased φ ο × Except Failure Unit) :=
  match input, output with
  | .foreign _, _ => return (output, .error (.invalidType .input h.descriptor.inputType))
  | .own _, .foreign _ => return (output, .error (.invalidType .output h.descriptor.outputType))
  | .own value, .own _ => do
    let (written, result) ← h.invoke context value
    return (.own written, result)

end

end Handler

end Rowgate
