import Rowgate.Proofs.Sentinel
/-
Errors of the store that an operation takes over.

An operation reports an error of the store as it is, or takes it over, which makes a status of its own
of a key that exists already, with a copy of the text. What was taken over is looked at three times
after that: whether it says that no row was found, which status it is answered with, and which text it
shows. Each time it is as if the error had been reported as it is: the text is copied whole, the code
of the server that makes it a status is also the one that is answered with that status, and such an
error is neither one of a row not found nor one of a database that cannot be reached.

So an operation may do either, and no request shows which (`handle_takingOver`). The main result is
`ofStore_answered_alike`.
-/
set_option autoImplicit false

namespace Rowgate

/-! ## Taking over -/

namespace Operation

open Store (StoreError Outcome)

/-- Takes over an error of the store; any other is left as it is. -/
def OpError.takeOver : OpError → OpError
  | .store e => .ofStore e
  | e => e

/-- The report with its error taken over. -/
def Report.takeOver (report : Report) : Report :=
  { report with error := report.error.map OpError.takeOver }

end Operation

/-- The operation that reports the same with its errors taken over. -/
def Operation.takingOver {m : Type → Type} {ι ο : Type} [Monad m] (operation : Operation m ι ο) :
    Operation m ι ο where
  perform context input output :=
    (fun given => (given.1, given.2.takeOver)) <$> operation.perform context input output

/-- The handler of the operation that takes errors over. -/
def Handler.takingOver {m : Type → Type} {ι ο : Type} [Monad m] (handler : Handler m ι ο) :
    Handler m ι ο :=
  ⟨handler.operation.takingOver, handler.descriptor⟩

/-! ## What is looked at -/

namespace Operation

open Store (StoreError Outcome)

theorem OpError.ofStore_message (e : StoreError) : (ofStore e).message = e.message := by
  unfold ofStore
  split <;> rfl

theorem OpError.ofStore_isNoRows (e : StoreError) :
    (ofStore e).isNoRows = (OpError.store e).isNoRows := by
  rw [Bool.eq_iff_iff, ofStore_isNoRows_iff, store_isNoRows_iff]

/-- A key that exists already was refused by a server that could be reached. -/
theorem isUnavailable_of_isUniqueViolation {e : StoreError} (h : e.isUniqueViolation = true) :
    e.isUnavailable = false := by
  unfold StoreError.isUniqueViolation at h
  split at h
  · rfl
  · contradiction

theorem OpError.ofStore_toStatus (e : StoreError) :
    (ofStore e).toStatus = (OpError.store e).toStatus := by
  unfold ofStore
  split
  · next hunique =>
    simp [alreadyExists, toStatus, hunique, isUnavailable_of_isUniqueViolation hunique]
  · rfl

/-! ## Reports with an error -/

/-- What a report with an error settles to. -/
theorem Report.settle_failing (outcome : Option Outcome) (e : OpError) :
    ({ outcome, error := some e } : Report).settle =
      .error (if outcome.any Outcome.touchedNothing || e.isNoRows then .notFound
        else .operation e) := by
  unfold settle touchedNothing errorResult
  cases outcome.any Outcome.touchedNothing <;> rfl

/-- The two reports settle alike: both to a row not found, or each to its own error. -/
theorem Report.settle_ofStore (outcome : Option Outcome) (e : StoreError) :
    let taken : Report := { outcome, error := some (.ofStore e) }
    let plain : Report := { outcome, error := some (.store e) }
    taken.settle = .error .notFound ∧ plain.settle = .error .notFound ∨
      taken.settle = .error (.operation (.ofStore e)) ∧
        plain.settle = .error (.operation (.store e)) := by
  intro taken plain
  rw [settle_failing, settle_failing, OpError.ofStore_isNoRows]
  cases outcome.any Outcome.touchedNothing || (OpError.store e).isNoRows
  · exact .inr ⟨rfl, rfl⟩
  · exact .inl ⟨rfl, rfl⟩

end Operation

/-! ## Responses -/

namespace Http

open Operation (Failure OpError Report)
open Store (StoreError Outcome)

/-- The response to an error of an operation. -/
theorem Response.ofFailure_operation (e : OpError) :
    Response.ofFailure (.operation e) = refusal e.toStatus.http e.toStatus.code e.message := rfl

theorem Response.ofFailure_ofStore (e : StoreError) :
    Response.ofFailure (.operation (.ofStore e)) = .ofFailure (.operation (.store e)) := by
  rw [ofFailure_operation, ofFailure_operation, OpError.ofStore_toStatus, OpError.ofStore_message]
  rfl

variable {m : Type → Type} {ι ο : Type}

theorem respond_takeOver (codec : Codec ι ο) (output : ο) (report : Report) :
    respond codec (output, report.takeOver) = respond codec (output, report) := by
  obtain ⟨outcome, error⟩ := report
  cases error with
  | none => rfl
  | some e =>
    cases e with
    | store e =>
      show respond codec (output, ⟨outcome, some (.ofStore e)⟩) = _
      unfold respond
      rcases Report.settle_ofStore outcome e with ⟨htaken, hplain⟩ | ⟨htaken, hplain⟩
      · rw [htaken, hplain]
      · rw [htaken, hplain]
        exact Response.ofFailure_ofStore e
    | status s text => rfl
    | other text => rfl

/-- No request shows whether errors are taken over. -/
theorem handle_takingOver [Monad m] [LawfulMonad m] [Inhabited ο] (codec : Codec ι ο)
    (handler : Handler m ι ο) (captures : Captures) (request : Request) :
    handle codec handler.takingOver captures request = handle codec handler captures request := by
  cases h : codec.ofRequest captures request with
  | error failure =>
    obtain ⟨text, rfl⟩ := Decoding.input codec captures request failure h
    rw [handle_error h, handle_error h]
  | ok input =>
    have hgive (invocation : Operation.Invocation ι ο) :
        handler.takingOver.operation.give invocation =
          (fun given => (given.1, given.2.takeOver)) <$> handler.operation.give invocation := rfl
    rw [handle_ok h, handle_ok h, hgive, Functor.map_map]
    exact congrArg (· <$> _) (funext fun given => respond_takeOver codec given.1 given.2)

/-! ## Main result -/

/-- **An error of the store is answered alike, taken over or not.** Beside any outcome, present or
absent, the two reports settle both to a row not found or each to its error, and are answered with the
same status, the same code and the same message: the refusal of a row not found, or the text of the
error under the status that the error of the store has. And whatever an operation reports, to take its
errors over changes the answer to no request. -/
theorem ofStore_answered_alike [Monad m] [LawfulMonad m] [Inhabited ο] (codec : Codec ι ο) :
    (∀ (e : StoreError) (outcome : Option Outcome) (output : ο),
      let taken : Report := { outcome, error := some (.ofStore e) }
      let plain : Report := { outcome, error := some (.store e) }
      let (status, code) := (OpError.store e).statusAndCode
      (taken.settle = .error .notFound ∧ plain.settle = .error .notFound ∧
        respond codec (output, taken) = refusal 404 "not_found" "not found" ∧
        respond codec (output, plain) = refusal 404 "not_found" "not found") ∨
      (taken.settle = .error (.operation (.ofStore e)) ∧
        plain.settle = .error (.operation (.store e)) ∧
        respond codec (output, taken) = refusal status code e.message ∧
        respond codec (output, plain) = refusal status code e.message)) ∧
    ∀ (handler : Handler m ι ο) (captures : Captures) (request : Request),
      handle codec handler.takingOver captures request =
        handle codec handler captures request := by
  refine ⟨fun e outcome output => ?_, handle_takingOver codec⟩
  have hsame : respond codec (output, ⟨outcome, some (.ofStore e)⟩) =
      respond codec (output, ⟨outcome, some (.store e)⟩) :=
    respond_takeOver codec output ⟨outcome, some (.store e)⟩
  rw [OpError.statusAndCode_eq]
  rcases Report.settle_ofStore outcome e with ⟨htaken, hplain⟩ | ⟨htaken, hplain⟩
  · have hresponse : respond codec (output, ⟨outcome, some (.store e)⟩) =
        refusal 404 "not_found" "not found" := by
      rw [respond, hplain]
      rfl
    exact .inl ⟨htaken, hplain, hsame.trans hresponse, hresponse⟩
  · have hresponse : respond codec (output, ⟨outcome, some (.store e)⟩) =
        refusal (OpError.store e).toStatus.http (OpError.store e).toStatus.code e.message := by
      rw [respond, hplain]
      rfl
    exact .inr ⟨htaken, hplain, hsame.trans hresponse, hresponse⟩

/-- A key that exists already, reported beside an outcome that counts a row, and a request that makes
an operation report it as it is. -/
theorem ofStore_answered_alike_duplicate :
    let e : StoreError := .database (.server "23505" "duplicate key")
    let answer := refusal 409 "already_exists"
      "Database error: error returned from database: duplicate key"
    let request : Request :=
      { method := "POST", target := ⟨"/", none⟩
        body := Utf8.encode
          "\x7b\"error\": \x7b\"store\":
            \x7b\"k\": \"pg\", \"code\": \"23505\", \"text\": \"duplicate key\"\x7d\x7d\x7d" }
    let world : Sample.World := { session := { link := .up [] } }
    OpError.ofStore e ≠ .store e ∧
      respond Sample.replayCodec (default, { outcome := some (.known 1), error := some (.ofStore e) })
        = answer ∧
      ((handle Sample.replayCodec replaying.takingOver [] request).run world).1 = answer := by
  intro e answer request world
  obtain ⟨halike, hhandle⟩ :=
    ofStore_answered_alike (m := Sample.Act) Sample.replayCodec
  refine ⟨by decide, ?_, ?_⟩
  · rcases halike e (some (.known 1)) default with ⟨hrow, -⟩ | ⟨-, -, htaken, -⟩
    · cases hrow
    · exact htaken
  · rw [hhandle replaying [] request]
    decide +kernel

end Http

end Rowgate
