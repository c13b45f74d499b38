import Rowgate.Handler.Dispatch
/-
What a handler invokes.

To tell how often a handler runs its operation, and on what, the operation is made to write down
every invocation before it performs. The record is a state of its own beside whatever the operation
works on, so this is possible in every monad, and nothing else changes. Everything that a handler
does with its operation is to invoke it once on the default output and to look at what it gives; the
equations below say so for the two ways in.
-/
set_option autoImplicit false

namespace Rowgate

open Operation (Context)

variable {m : Type → Type} {ι ο φ : Type} [Monad m]

/-! ## Recording -/

namespace Operation

/-- What an operation is invoked with. -/
structure Invocation (ι ο : Type) where
  context : Context
  input : ι
  output : ο
deriving DecidableEq

/-- What an operation gives when it is invoked. -/
def give (operation : Operation m ι ο) (invocation : Invocation ι ο) : m (ο × Report) :=
  operation.perform invocation.context invocation.input invocation.output

/-- The operation that first writes down what it is invoked with. -/
def recorded (operation : Operation m ι ο) : Operation (StateT (List (Invocation ι ο)) m) ι ο where
  perform context input output := do
    modify (· ++ [⟨context, input, output⟩])
    operation.perform context input output

/-- **The record.** A recorded operation gives what it gave, and its record is longer by the
invocation. -/
theorem run_give_recorded [LawfulMonad m] (operation : Operation m ι ο)
    (invocation : Invocation ι ο) (log : List (Invocation ι ο)) :
    (operation.recorded.give invocation).run log =
      (·, log ++ [invocation]) <$> operation.give invocation := by
  simp [give, recorded]

/-- One invocation after the other: the record grows by all of them, in their order. -/
theorem run_mapM_give_recorded [LawfulMonad m] (operation : Operation m ι ο)
    (invocations log : List (Invocation ι ο)) :
    (invocations.mapM operation.recorded.give).run log =
      (·, log ++ invocations) <$> invocations.mapM operation.give := by
  induction invocations generalizing log with
  | nil => simp
  | cons invocation invocations ih => simp [run_give_recorded, ih]

end Operation

namespace Handler

open Operation (Invocation)

/-- The handler of the recorded operation. -/
def recorded (h : Handler m ι ο) : Handler (StateT (List (Invocation ι ο)) m) ι ο :=
  ⟨h.operation.recorded, h.descriptor⟩

/-! ## Calls as invocations -/

variable [LawfulMonad m] [Inhabited ο]

/-- What is invoked for an input: the output is the default one. -/
def invocation (context : Context) (input : ι) : Invocation ι ο := ⟨context, input, default⟩

theorem invoke_eq (h : Handler m ι ο) (context : Context) (input : ι) :
    h.invoke context input =
      (fun given => (given.1, given.2.settle)) <$>
        h.operation.give (invocation context input) := by
  simp [invoke, Operation.give, invocation]

theorem call_eq (h : Handler m ι ο) (context : Context) (input : ι) :
    h.call context input =
      (fun given => given.2.settle.map fun _ => given.1) <$>
        h.operation.give (invocation context input) := by
  simp [call, invoke_eq]

theorem dispatch_own (h : Handler m ι ο) (context : Context) (input : ι) (prior : ο) :
    h.dispatch (φ := φ) context (.own input) (.own prior) =
      (fun given => (.own given.1, given.2.settle)) <$>
        h.operation.give (invocation context input) := by
  simp [dispatch, invoke_eq]

end Handler

end Rowgate
