import Rowgate.Handler.Dispatch
/-
Runs of a handler.

A run is a sequence of calls through both entries, with an output value that is kept from call to
call. A call of known types has an output of its own; any other works on the kept value, which the
caller may replace beforehand, or on a foreign one.
-/
set_option autoImplicit false

namespace Rowgate.Handler

open Operation (Context Failure)

/-- The output that a call of unknown types is given. -/
inductive OutputChoice (φ ο : Type) where
  | kept
  | replaced (value : ο)
  | foreign (value : φ)

/-- One call of a handler. -/
inductive Call (φ ι ο : Type) where
  | typed (input : ι)
  | erased (input : Erased φ ι) (output : OutputChoice φ ο)

/-- What a call gives. -/
inductive CallResult (ο : Type) where
  | typed (result : Except Failure ο)
  | erased (result : Except Failure Unit)

variable {m : Type → Type} {ι ο φ : Type} [Monad m] [Inhabited ο]

/-- One call: its result, and the output value that is kept after it. -/
def step (h : Handler m ι ο) (context : Context) (kept : ο) :
    Call φ ι ο → m (CallResult ο × ο)
  | .typed input => do
    let result ← h.call context input
    return (.typed result, kept)
  | .erased input choice => do
    let (before, given) : ο × Erased φ ο := match choice with
      | .kept => (kept, .own kept)
      | .replaced value => (value, .own value)
      | .foreign value => (kept, .foreign value)
    let (after, result) ← h.dispatch context input given
    return (.erased result, match after with | .own value => value | .foreign _ => before)

end Rowgate.Handler
