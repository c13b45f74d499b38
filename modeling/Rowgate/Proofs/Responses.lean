import Rowgate.Http.Endpoint
import Rowgate.Proofs.Invocations
import Rowgate.Sample.Replay
/-
What a request is answered with.

The response to a request is decided in layers: the request is decoded, the operation is invoked,
its report is settled, the failure that may come of it gets a status, and the status a response. What
the layers come to is stated here without them, from the request and from what the operation gave.

A request that does not decode is refused with the reason, and nothing is invoked. Any other request
is one invocation on the default output. What it gives decides the response in three cases, looked
at in this order: a report that shows no row, whatever else it says; no error; an error.
-/
set_option autoImplicit false

namespace Rowgate

/-! ## Errors and reports -/

namespace Operation

/-- An error that says that there is no row: the store's own error for it, or any error with exactly
the text of that one. -/
def OpError.NoRows (e : OpError) : Prop :=
  e = .store (.database .rowNotFound) ∨ e.message = "sql: no rows in result set"

/-- The HTTP status and the code that an error is answered with. -/
def OpError.statusAndCode : OpError → Nat × String
  | .status s _ => (s.http, s.code)
  | .store (.database .poolTimedOut) => (503, "unavailable")
  | .store (.database .poolClosed) => (503, "unavailable")
  | .store (.database (.io _)) => (503, "unavailable")
  | .store (.database (.server code _)) =>
    if code = "23505" then (409, "already_exists") else (500, "internal")
  | .store _ | .other _ => (500, "internal")

/-- A report that shows no row: an outcome whose count is zero or unknown, or an error of no
rows. -/
def Report.NoRow (report : Report) : Prop :=
  (∃ outcome ∈ report.outcome, outcome.rowsAffected = some 0 ∨ outcome.rowsAffected = none) ∨
    ∃ e ∈ report.error, e.NoRows

theorem OpError.isNoRows_iff (e : OpError) : e.isNoRows = true ↔ e.NoRows := by
  cases e with
  | store e =>
    have hstore : e.isNoRows = true ↔ e = .database .rowNotFound := by
      unfold Store.StoreError.isNoRows
      split <;> simp_all
    simp [isNoRows, NoRows, hstore, message, Store.noRowsMessage]
  | status s text => simp [isNoRows, NoRows, Store.noRowsMessage]
  | other text => simp [isNoRows, NoRows, Store.noRowsMessage]

theorem OpError.statusAndCode_eq (e : OpError) :
    e.statusAndCode = (e.toStatus.http, e.toStatus.code) := by
  cases e with
  | status s text => rfl
  | other text => rfl
  | store e =>
    cases e with
    | database e =>
      cases e with
      | server code text =>
        by_cases hcode : code = "23505"
        all_goals simp [statusAndCode, toStatus, Store.StoreError.isUnavailable,
          Store.StoreError.isUniqueViolation, Store.LinkError.uniqueViolationCode, hcode,
          Status.http, Status.code]
      | _ => rfl
    | _ => rfl

theorem Report.touchedNothing_iff (report : Report) :
    report.touchedNothing = true ↔
      ∃ outcome ∈ report.outcome, outcome.rowsAffected = some 0 ∨ outcome.rowsAffected = none := by
  have hcount (count : Option Nat) : count.getD 0 = 0 ↔ count = some 0 ∨ count = none := by
    cases count <;> simp
  simp [touchedNothing, Option.any_eq_true, Store.Outcome.touchedNothing, hcount]

/-! ## Settling -/

theorem Report.settle_of_noRow {report : Report} (h : report.NoRow) :
    report.settle = .error .notFound := by
  unfold settle
  split
  · rfl
  · next htouched =>
    obtain houtcome | ⟨e, he, hrows⟩ := h
    · exact absurd (report.touchedNothing_iff.mpr houtcome) htouched
    · simp [errorResult, Option.mem_def.mp he, e.isNoRows_iff.mpr hrows]

theorem Report.settle_of_row {report : Report} (h : ¬report.NoRow) :
    report.settle = (report.error.elim (.ok ()) fun e => .error (.operation e)) := by
  obtain ⟨houtcome, herror⟩ := not_or.mp h
  rw [settle, if_neg fun htouched => houtcome (report.touchedNothing_iff.mp htouched)]
  cases hreport : report.error with
  | none => simp [errorResult, hreport]
  | some e =>
    have hrows : e.isNoRows = false := by
      simpa [← e.isNoRows_iff] using fun hrows => herror ⟨e, hreport, hrows⟩
    simp [errorResult, hreport, hrows]

end Operation

namespace Http

open Operation (Failure OpError Report Invocation)

/-! ## Requests that do not decode -/

/-- A result that can only have failed in decoding. -/
def Decoding {α : Type} (result : Except Failure α) : Prop :=
  ∀ failure, result = .error failure → ∃ text, failure = .decode text

namespace Decoding

variable {α β ε : Type}

theorem ok (a : α) : Decoding (.ok a) := fun _ h => nomatch h

theorem error (text : String) : Decoding (.error (.decode text) : Except Failure α) := by
  rintro _ ⟨⟩
  exact ⟨text, rfl⟩

theorem mapError (result : Except ε α) (text : ε → String) :
    Decoding (result.mapError fun e => .decode (text e)) := by
  cases result with
  | ok a => exact ok a
  | error e => exact error (text e)

theorem bind {result : Except Failure α} {next : α → Except Failure β} (h : Decoding result)
    (hnext : ∀ a, Decoding (next a)) : Decoding (result >>= next) := by
  cases result with
  | ok a => exact hnext a
  | error failure =>
    obtain ⟨text, rfl⟩ := h failure rfl
    exact error text

theorem captures : (captures : Captures) → Decoding (decodeCaptures captures)
  | [] => ok []
  | (name, text) :: rest => by
    unfold decodeCaptures
    split
    · exact error _
    · exact bind (captures rest) fun _ => ok _

theorem fields (captures : Captures) (request : Request) :
    Decoding (requestFields captures request) := by
  refine bind (Decoding.captures captures) fun path => ?_
  by_cases hlong : Input.maxBodyBytes < request.body.length
  · rw [if_pos hlong]
    exact error _
  · rw [if_neg hlong]
    exact mapError (Input.gather ..) _

theorem input {ι ο : Type} (codec : Codec ι ο) (captures : Captures) (request : Request) :
    Decoding (codec.ofRequest captures request) :=
  bind (fields captures request) fun _ => mapError (codec.read _) _

end Decoding

/-! ## Responses -/

/-- A refusal: a code and a message. -/
def refusal (status : Nat) (code message : String) : Response :=
  .json status (.object [("error", .string code), ("message", .string message)])

/-- The response to what an operation gave. -/
structure Answers {ι ο : Type} (codec : Codec ι ο) (output : ο) (report : Report)
    (response : Response) : Prop where
  noRow : report.NoRow → response = refusal 404 "not_found" "not found"
  success : ¬report.NoRow → report.error = none →
    ∀ value, codec.write output = .ok value → response = .json 200 value
  error : ¬report.NoRow → ∀ e ∈ report.error,
    response = refusal e.statusAndCode.1 e.statusAndCode.2 e.message

/-- The response that the layers come to. -/
def respond {ι ο : Type} (codec : Codec ι ο) (given : ο × Report) : Response :=
  match given.2.settle with
  | .ok () => .ofOutput (codec.write given.1)
  | .error failure => .ofFailure failure

section

variable {m : Type → Type} {ι ο : Type} [Monad m] [Inhabited ο] {codec : Codec ι ο}
  {captures : Captures} {request : Request}

theorem handle_error {text : String}
    (h : codec.ofRequest captures request = .error (.decode text)) (handler : Handler m ι ο) :
    handle codec handler captures request =
      pure (refusal 400 "invalid_argument" ("invalid request: " ++ text)) := by
  rw [handle, h]
  rfl

theorem handle_ok [LawfulMonad m] {input : ι} (h : codec.ofRequest captures request = .ok input)
    (handler : Handler m ι ο) :
    handle codec handler captures request =
      respond codec <$> handler.operation.give
        (Handler.invocation ⟨handler.descriptor.mainTag⟩ input) := by
  rw [map_eq_pure_bind]
  simp only [handle, h, Handler.call_eq, bind_map_left]
  refine bind_congr fun given => ?_
  unfold respond
  cases given.2.settle <;> rfl

end

variable {m : Type → Type} {ι ο : Type} [Monad m] [LawfulMonad m] [Inhabited ο]

/-- Replays what a request spells, under the tag of items. -/
def replaying : Handler Sample.Act Json Sample.Replayed :=
  .build (Sample.replay {}) (.tagged "items") "Json" "Replayed"

end Http

end Rowgate
