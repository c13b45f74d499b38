import Rowgate.Handler.Calls
import Rowgate.Proofs.Invocations
import Rowgate.Sample.Replay
/-
Runs of a handler.

A run takes an output value from call to call. What it comes to is told here from two lists alone:
the calls, and what the operation gave to those of them whose types match, in their order. Only these
are invocations. Nothing that an earlier call left behind, and nothing that the caller put into the
output, has a part in the answer to a call that matches (`answers_getElem`); a call that does not
match is refused, and the caller finds the output as it was.
-/
set_option autoImplicit false

namespace Rowgate.Handler

open Operation (Context Failure Invocation Position Report)

variable {m : Type → Type} {ι ο φ : Type}

/-! ## Calls and their answers -/

/-- What a call leaves: its result and, where the types were unknown, the output as it is
afterwards. -/
inductive Answer (φ ο : Type) where
  | typed (result : Except Failure ο)
  | erased (output : Erased φ ο) (result : Except Failure Unit)

/-- The result alone. -/
def Answer.result : Answer φ ο → CallResult ο
  | .typed result => .typed result
  | .erased _ result => .erased result

/-- The output that a call is given, if `kept` was kept. -/
def OutputChoice.given (kept : ο) : OutputChoice φ ο → Erased φ ο
  | .kept => .own kept
  | .replaced value => .own value
  | .foreign value => .foreign value

/-- The value that is kept if the call leaves it alone. -/
def OutputChoice.before (kept : ο) : OutputChoice φ ο → ο
  | .replaced value => value
  | _ => kept

/-- The value if it is of the type asked for. -/
def Erased.ownD {α : Type} (value : Erased φ α) (fallback : α) : α :=
  match value with
  | .own value => value
  | .foreign _ => fallback

/-- The input of a call whose types match, or else the position of a foreign value. A foreign input
is seen first. -/
def Call.check : Call φ ι ο → Except Position ι
  | .typed input => .ok input
  | .erased (.foreign _) _ => .error .input
  | .erased (.own _) (.foreign _) => .error .output
  | .erased (.own input) _ => .ok input

/-- The type that a handler takes in a position. -/
def Descriptor.expected (d : Descriptor) : Position → String
  | .input => d.inputType
  | .output => d.outputType

/-- What a call leaves whose types match, when the operation gives an output and a report. Both
entries come to the same, but the typed one shows the output of a success only. -/
def Call.leaves (output : ο) (report : Report) : Call φ ι ο → Answer φ ο
  | .typed _ => .typed (report.settle.map fun _ => output)
  | .erased _ _ => .erased (.own output) report.settle

/-- The value kept after a call whose types match: a typed call has an output of its own. -/
def Call.keeps (kept output : ο) : Call φ ι ο → ο
  | .typed _ => kept
  | .erased _ _ => output

/-- What a call leaves that is refused, and the value kept after it: all is as it was. -/
def Call.refused (kept : ο) (failure : Failure) : Call φ ι ο → Answer φ ο × ο
  | .typed _ => (.typed (.error failure), kept)
  | .erased _ choice => (.erased (choice.given kept) (.error failure), choice.before kept)

variable [Monad m] [Inhabited ο]

/-- What is invoked in a run: the calls whose types match, in their order. -/
def invocations (calls : List (Context × Call φ ι ο)) : List (Invocation ι ο) :=
  calls.filterMap fun (context, call) => call.check.toOption.map (invocation context)

/-- One call: what it leaves, and the value that is kept after it. -/
def visit (h : Handler m ι ο) (context : Context) (kept : ο) :
    Call φ ι ο → m (Answer φ ο × ο)
  | .typed input => do return (.typed (← h.call context input), kept)
  | .erased input choice => do
    let (after, result) ← h.dispatch context input (choice.given kept)
    return (.erased after result, after.ownD (choice.before kept))

/-- One call after the other, each with its context. -/
def run (h : Handler m ι ο) : ο → List (Context × Call φ ι ο) → m (List (Answer φ ο) × ο)
  | kept, [] => return ([], kept)
  | kept, (context, call) :: calls => do
    let (answer, kept) ← h.visit context kept call
    Prod.map (answer :: ·) id <$> h.run kept calls

/-! ## One call -/

variable [LawfulMonad m]

/-- A visit is a step that also tells what has become of the output. -/
theorem step_eq (h : Handler m ι ο) (context : Context) (kept : ο) (call : Call φ ι ο) :
    h.step context kept call =
      (fun visited => (visited.1.result, visited.2)) <$> h.visit context kept call := by
  cases call with
  | typed input => simp [step, visit, Answer.result]
  | erased input choice =>
    rw [map_eq_pure_bind]
    cases choice
    all_goals
      simp only [step, visit, OutputChoice.given, OutputChoice.before, bind_assoc, pure_bind]
      refine bind_congr fun given => ?_
      cases given.1 <;> rfl

theorem visit_of_ok (h : Handler m ι ο) (context : Context) (kept : ο) {call : Call φ ι ο}
    {input : ι} (hcall : call.check = .ok input) :
    h.visit context kept call =
      (fun given => (call.leaves given.1 given.2, call.keeps kept given.1)) <$>
        h.operation.give (invocation context input) := by
  cases call with
  | typed input =>
    cases hcall
    simp [visit, call_eq, Call.leaves, Call.keeps]
  | erased input choice =>
    cases input with
    | foreign value => cases hcall
    | own input =>
      cases choice with
      | foreign value => cases hcall
      | kept =>
        cases hcall
        simp [visit, OutputChoice.given, dispatch_own, Erased.ownD, Call.leaves, Call.keeps]
      | replaced prior =>
        cases hcall
        simp [visit, OutputChoice.given, dispatch_own, Erased.ownD, Call.leaves, Call.keeps]

theorem visit_of_error (h : Handler m ι ο) (context : Context) (kept : ο) {call : Call φ ι ο}
    {position : Position} (hcall : call.check = .error position) :
    h.visit context kept call =
      pure (call.refused kept (.invalidType position (h.descriptor.expected position))) := by
  cases call with
  | typed input => cases hcall
  | erased input choice =>
    cases input with
    | foreign value =>
      cases hcall
      -- the output is looked at neither by the handler nor here
      cases choice <;> simp [visit, dispatch, OutputChoice.given, OutputChoice.before, Erased.ownD,
        Call.refused, Descriptor.expected]
    | own input =>
      cases choice with
      | foreign value =>
        cases hcall
        simp [visit, dispatch, OutputChoice.given, OutputChoice.before, Erased.ownD, Call.refused,
          Descriptor.expected]
      | kept => cases hcall
      | replaced prior => cases hcall

/-! ## A whole run -/

/-- What the calls of a run leave, and the value kept at its end, from what the operation gave to
those that match. -/
def answers (d : Descriptor) : ο → List (Context × Call φ ι ο) → List (ο × Report) →
    List (Answer φ ο) × ο
  | kept, [], _ => ([], kept)
  | kept, (_, call) :: calls, given =>
    match call.check, given with
    | .error position, given =>
      let (answer, kept) := call.refused kept (.invalidType position (d.expected position))
      Prod.map (answer :: ·) id (answers d kept calls given)
    | .ok _, (output, report) :: given =>
      Prod.map (call.leaves output report :: ·) id (answers d (call.keeps kept output) calls given)
    | .ok _, [] => ([], kept)

/-- A run is made from what the operation gives to the calls that match. -/
theorem run_eq (h : Handler m ι ο) (kept : ο) (calls : List (Context × Call φ ι ο)) :
    h.run kept calls =
      answers h.descriptor kept calls <$> (invocations calls).mapM h.operation.give := by
  induction calls generalizing kept with
  | nil => simp [run, invocations, answers]
  | cons visited calls ih =>
    obtain ⟨context, call⟩ := visited
    cases hcall : call.check with
    | ok input =>
      rw [run, h.visit_of_ok context kept hcall]
      simp [ih, invocations, hcall, answers, Except.toOption]
    | error position =>
      rw [run, h.visit_of_error context kept hcall]
      simp [ih, invocations, hcall, answers, Except.toOption]

/-- **No call depends on another.** The answer to a call whose types match is made from what the
operation gave to this call. -/
theorem answers_getElem (d : Descriptor) (kept : ο) (before after : List (Context × Call φ ι ο))
    (context : Context) {call : Call φ ι ο} {input : ι} (hcall : call.check = .ok input)
    (given rest : List (ο × Report)) (output : ο) (report : Report)
    (hgiven : given.length = (invocations before).length) :
    (answers d kept (before ++ (context, call) :: after)
      (given ++ (output, report) :: rest)).1[before.length]? = some (call.leaves output report) := by
  induction before generalizing kept given with
  | nil =>
    obtain rfl := List.eq_nil_of_length_eq_zero hgiven
    simp [answers, hcall]
  | cons visited before ih =>
    obtain ⟨_, earlier⟩ := visited
    cases hearlier : earlier.check with
    | error position =>
      -- nothing was given to a call that was refused
      have hbefore : given.length = (invocations before).length := by
        simpa [invocations, hearlier, Except.toOption] using hgiven
      simp [answers, hearlier, ih _ _ hbefore]
    | ok _ =>
      cases given with
      | nil => simp [invocations, hearlier, Except.toOption] at hgiven
      | cons first given =>
        have hbefore : given.length = (invocations before).length := by
          simpa [invocations, hearlier, Except.toOption] using hgiven
        simp [answers, hearlier, ih _ _ hbefore]

/-- **Runs.** The handler records what it invokes; but for the record it answers as it does. The
record grows by one invocation on the default output for each call whose types match and by nothing
else. The answers are made from what the operation gave to these, each from what it gave to its own
call: earlier calls and the value kept have no part in it. -/
theorem run_answers (h : Handler m ι ο) (kept : ο) (calls : List (Context × Call φ ι ο))
    (log : List (Invocation ι ο)) :
    Prod.fst <$> (h.recorded.run kept calls).run log = h.run kept calls ∧
    ((h.recorded.run kept calls).run log = do
      let given ← (invocations calls).mapM h.operation.give
      return (answers h.descriptor kept calls given, log ++ invocations calls)) ∧
    ∀ before context call after input, calls = before ++ (context, call) :: after →
      call.check = .ok input →
      ∀ given output report rest, given.length = (invocations before).length →
        (answers h.descriptor kept calls (given ++ (output, report) :: rest)).1[before.length]? =
          some (call.leaves output report) := by
  have hrun : (h.recorded.run kept calls).run log =
      (answers h.descriptor kept calls ·, log ++ invocations calls) <$>
        (invocations calls).mapM h.operation.give := by
    rw [run_eq, StateT.run_map]
    simp [recorded, Operation.run_mapM_give_recorded]
  refine ⟨?_, ?_, ?_⟩
  · rw [hrun, run_eq, Functor.map_map]
  · rw [hrun, map_eq_pure_bind]
  · rintro before context call after input rfl hcall given output report rest hgiven
    exact answers_getElem h.descriptor kept before after context hcall given rest output report hgiven

/-- Counts its calls, under the tag of items. -/
def counter : Handler (StateM Sample.Counter) String Sample.Counted :=
  .build Sample.counting (.tagged "items") "String" "Counted"

/-- Every kind of call, while the operation reports an error: three invocations for six calls. And a
typed call behind one that is refused. -/
theorem run_answers_counter :
    ((counter.recorded.run (φ := Unit) ⟨"stale", false⟩
        [(⟨"a"⟩, .typed "one"), (⟨"b"⟩, .erased (.own "two") .kept),
          (⟨"c"⟩, .erased (.foreign ()) .kept), (⟨"d"⟩, .erased (.foreign ()) (.foreign ())),
          (⟨"e"⟩, .erased (.own "three") (.foreign ())),
          (⟨"f"⟩, .erased (.own "four") (.replaced ⟨"old", false⟩))]).run []).run
        { report := .failed (.other "boom") } =
      ((([.typed (.error (.operation (.other "boom"))),
          .erased (.own ⟨"two", true⟩) (.error (.operation (.other "boom"))),
          .erased (.own ⟨"two", true⟩) (.error (.invalidType .input "String")),
          .erased (.foreign ()) (.error (.invalidType .input "String")),
          .erased (.foreign ()) (.error (.invalidType .output "Counted")),
          .erased (.own ⟨"four", true⟩) (.error (.operation (.other "boom")))],
          ⟨"four", true⟩),
        [⟨⟨"a"⟩, "one", default⟩, ⟨⟨"b"⟩, "two", default⟩, ⟨⟨"f"⟩, "four", default⟩]),
        { calls := 3, report := .failed (.other "boom") }) ∧
    (answers (φ := Unit) (ι := String) (ο := Sample.Counted) counter.descriptor
        ⟨"stale", false⟩
        [(⟨"a"⟩, .erased (.foreign ()) .kept), (⟨"b"⟩, .typed "one")]
        [(⟨"one", true⟩, {})]).1[1]? = some (.typed (.ok ⟨"one", true⟩)) := by
  refine ⟨?_, ?_⟩
  · rw [(run_answers counter _ _ []).2.1]
    rfl
  · exact (run_answers counter _ _ []).2.2 [_] _ _ [] "one" rfl rfl [] _ _ [] rfl

end Rowgate.Handler
