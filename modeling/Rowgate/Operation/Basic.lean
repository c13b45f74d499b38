import Rowgate.Operation.Report
/-
Operations: the tasks that handlers expose.

An operation takes an input and a clean output and gives back an output and a report. It works in a
monad `m`, which holds whatever the operation works on.
-/
set_option autoImplicit false

namespace Rowgate

/-- What an operation is told about its request. -/
structure Operation.Context where
  tag : String
deriving DecidableEq, Repr

/-- A task with inputs of type `ι` and outputs of type `ο`. -/
structure Operation (m : Type → Type) (ι ο : Type) where
  perform : Operation.Context → ι → ο → m (ο × Operation.Report)

end Rowgate
