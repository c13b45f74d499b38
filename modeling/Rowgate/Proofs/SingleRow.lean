import Rowgate.Proofs.Writes
import Rowgate.Sample.Note
/-
Reading one row.

A row is read in two ways: `fetchOne` expects it and fails without it, `fetchOptional` gives what is
there. Both send the selection of at most one row, so on the same reply they can only differ where no
row came. What one gives is told here by what the other gives, and an error that is not the one for a
row not found is never among what differs: no refusal is that error, no reply of a server is, and
reading the columns of a row is asked not to be.

An operation that reports the row it expected settles to a row not found in this case alone.
-/
set_option autoImplicit false

namespace Rowgate

open Operation (Failure OpError Report)

namespace Store

/-! ## A row that is expected, and one that may be there -/

section Expected

variable {α : Type}

/-- What may be there, where it is expected. -/
def expected : Option α → Except StoreError α
  | some a => .ok a
  | none => .error (.database .rowNotFound)

/-- How a row that was expected is told by the one that may be there. -/
structure Alike (one : Except StoreError α) (optional : Except StoreError (Option α)) : Prop where
  row : ∀ a, one = .ok a ↔ optional = .ok (some a)
  noRow : one = .error (.database .rowNotFound) ↔ optional = .ok none
  error : ∀ e, e ≠ .database .rowNotFound → (one = .error e ↔ optional = .error e)

/-- To expect a row adds the error of a row not found, if this was no error before. -/
theorem Alike.of_expected {optional : Except StoreError (Option α)}
    (h : optional ≠ .error (.database .rowNotFound)) : Alike (optional.bind expected) optional := by
  cases optional with
  | error e =>
    have he : e ≠ .database .rowNotFound := fun heq => h (congrArg Except.error heq)
    show Alike (.error e) (.error e)
    exact ⟨fun a => by simp, by simp [he], fun _ _ => by simp⟩
  | ok result =>
    cases result with
    | none =>
      show Alike (.error (.database .rowNotFound)) (.ok none)
      exact ⟨by simp, by simp, fun e he => by simp [he.symm]⟩
    | some a =>
      show Alike (.ok a) (.ok (some a))
      exact ⟨by simp, by simp, by simp⟩

end Expected

/-! ## The two ways to read a row -/

section Sending

variable {α : Type} {read : Answer → Except LinkError α}

theorem sending_error (e : StoreError) (session : Session) :
    sending (.error e) read session = (.error e, session) := rfl

theorem sending_ok (r : Sql.Rendered) (session : Session) :
    sending (.ok r) read session =
      (((session.execute (.ofRendered r)).1.bind read).mapError .database,
        (session.execute (.ofRendered r)).2) := rfl

/-- An open session sends what was rendered, and waits for one reply. -/
theorem sending_up (r : Sql.Rendered) {session : Session} {replies : List Reply}
    (hopen : session.closed = false) (hlink : session.link = .up replies) :
    (sending (.ok r) read session).2 =
      { session with link := .up (replies.drop 1), sent := session.sent ++ [.ofRendered r] } := by
  rw [sending_ok, Session.execute, hopen, hlink]
  cases replies with
  | nil => rfl
  | cons reply later => cases reply <;> rfl

end Sending

theorem Session.execute_ne_rowNotFound (session : Session) (statement : Sent) :
    (session.execute statement).1 ≠ .error .rowNotFound := by
  unfold execute
  split
  · simp
  · split
    · simp
    · dsimp only
      split <;> simp

namespace Select

/-- Where a row is expected, it is the one that may be there. -/
theorem fetchOne_eq (s : Select) (session : Session) :
    s.fetchOne session =
      ((s.fetchOptional session).1.bind expected, (s.fetchOptional session).2) := by
  unfold fetchOne fetchOptional
  cases s.single.render with
  | error e => rfl
  | ok r =>
    rw [sending_ok, sending_ok]
    cases (session.execute (.ofRendered r)).1 with
    | error e => rfl
    | ok a => cases hrows : a.namedRows <;> simp [Except.bind, Except.mapError, expected, hrows]

/-- The row that may be there is never denied by an error. -/
theorem fetchOptional_ne_rowNotFound (s : Select) (session : Session) :
    (s.fetchOptional session).1 ≠ .error (.database .rowNotFound) := by
  unfold fetchOptional
  cases hrender : s.single.render with
  | error e => exact fun h => Refusing.select s.single e hrender _ (Except.error.inj h)
  | ok r =>
    have hexecute := session.execute_ne_rowNotFound (.ofRendered r)
    rw [sending_ok]
    cases hresult : (session.execute (.ofRendered r)).1 with
    | ok a => exact nofun
    | error e =>
      rw [hresult] at hexecute
      intro h
      exact hexecute (congrArg Except.error (StoreError.database.inj (Except.error.inj h)))

end Select

/-! ## Reading the columns of a row -/

section Typed

variable {α : Type} {read : Row → Except StoreError α}

/-- Reads the columns of the row that may be there. -/
def readOptional (read : Row → Except StoreError α) : Option Row → Except StoreError (Option α)
  | some row => (read row).map some
  | none => .ok none

/-- To expect a row and read it is to read what may be there and expect the result. -/
theorem bind_expected_bind (optional : Except StoreError (Option Row)) :
    (optional.bind expected).bind read = (optional.bind (readOptional read)).bind expected := by
  cases optional with
  | error e => rfl
  | ok result =>
    cases result with
    | none => rfl
    | some row =>
      show read row = ((read row).map some).bind expected
      cases read row <;> rfl

/-- Nor is it denied where its columns are read, if reading them does not. -/
theorem bind_readOptional_ne {optional : Except StoreError (Option Row)}
    (h : optional ≠ .error (.database .rowNotFound))
    (hread : ∀ row, read row ≠ .error (.database .rowNotFound)) :
    optional.bind (readOptional read) ≠ .error (.database .rowNotFound) := by
  intro heq
  obtain herror | ⟨result, -, hresult⟩ := bind_eq_error.mp heq
  · exact h herror
  · cases result with
    | none => cases hresult
    | some row => exact hread row (map_eq_error.mp hresult)

end Typed

/-! ## Reporting -/

/-- What a row that was expected settles to, if nothing but its error is reported. -/
def settledRow {α : Type} (wrap : StoreError → OpError) (one : Except StoreError α) :
    Except Failure Unit :=
  (Report.ofUnit ((one.map fun _ => ()).mapError wrap)).settle

/-- How what is settled to is told by the row that may be there. -/
structure Settles {α : Type} (wrap : StoreError → OpError)
    (optional : Except StoreError (Option α)) (result : Except Failure Unit) : Prop where
  success : result = .ok () ↔ ∃ a, optional = .ok (some a)
  notFound : result = .error .notFound ↔ optional = .ok none
  failure : ∀ e, result = .error (.operation e) ↔ ∃ cause, optional = .error cause ∧ e = wrap cause

section Settled

variable {α : Type} {wrap : StoreError → OpError}

theorem settledRow_ok (a : α) : settledRow wrap (.ok a) = .ok () := rfl

theorem settledRow_error (e : StoreError) :
    settledRow wrap (.error e : Except StoreError α) =
      .error (if (wrap e).isNoRows then .notFound else .operation (wrap e)) := rfl

/-- Only the error of a row not found is taken for it, if it alone says so once it was wrapped. -/
theorem Alike.settledRow_told {one : Except StoreError α} {optional : Except StoreError (Option α)}
    (hwrap : ∀ e, (wrap e).isNoRows = true ↔ e = .database .rowNotFound) (h : Alike one optional) :
    Settles wrap optional (settledRow wrap one) := by
  cases one with
  | ok a =>
    rw [(h.row a).mp rfl]
    exact ⟨by simp [settledRow_ok], by simp [settledRow_ok], by simp [settledRow_ok]⟩
  | error e =>
    rw [settledRow_error]
    by_cases hrow : e = .database .rowNotFound
    · rw [if_pos ((hwrap e).mpr hrow), h.noRow.mp (congrArg _ hrow)]
      exact ⟨by simp, by simp, by simp⟩
    · rw [if_neg fun hrows => hrow ((hwrap e).mp hrows), (h.error e hrow).mp rfl]
      exact ⟨by simp, by simp, by simp [eq_comm]⟩

end Settled

/-! ## Main result -/

/-- What the reply of the server says of the row that may be there. -/
def Reply.row? : Reply → Except StoreError (Option Row)
  | .answer a => .ok a.namedRows.head?
  | .refusal code text => .error (.database (.server code text))

/-- **Two ways to read one row.** Both are refused as the selection is that has its limit replaced by
one, and then nothing is sent. Otherwise both send the one statement that this selection is rendered
as, and go on with the same session. What they give is alike, also once the columns were read: the
row in both, the error of a row not found in one where there is none in the other, any other error in
both. An operation that reports what it expected settles to a row not found exactly if none was
there. -/
theorem Select.fetchOne_fetchOptional {α : Type} (s : Select) (session : Session)
    (read : Row → Except StoreError α)
    (hread : ∀ row, read row ≠ .error (.database .rowNotFound)) :
    let wanted : Select :=
      { s with query := { s.query with page := { s.query.page with limit := some 1 } } }
    let one := s.fetchOne session
    let optional := s.fetchOptional session
    (∀ e, wanted.render = .error e → one = (.error e, session) ∧ optional = (.error e, session)) ∧
    (∀ r reply later, wanted.render = .ok r → session.closed = false →
      session.link = .up (reply :: later) → optional = (reply.row?,
        { session with
          link := .up later, sent := session.sent ++ [⟨r.text, r.values.map .ofJson⟩] })) ∧
    one.2 = optional.2 ∧
    Alike one.1 optional.1 ∧
    Alike (one.1.bind read) (optional.1.bind (readOptional read)) ∧
    ∀ wrap, wrap = OpError.store ∨ wrap = OpError.ofStore →
      Settles wrap (optional.1.bind (readOptional read)) (settledRow wrap (one.1.bind read)) := by
  intro wanted one optional
  have hone : one = (optional.1.bind expected, optional.2) := s.fetchOne_eq session
  have hoptional : optional = sending wanted.render (fun a => .ok a.namedRows.head?) session := rfl
  have hadmits := s.fetchOptional_ne_rowNotFound session
  have hread : Alike (one.1.bind read) (optional.1.bind (readOptional read)) := by
    rw [hone, bind_expected_bind]
    exact .of_expected (bind_readOptional_ne hadmits hread)
  refine ⟨fun e h => ?_, fun r reply later h hopen hlink => ?_, by rw [hone], ?_, hread, ?_⟩
  · have herror : optional = (.error e, session) := by rw [hoptional, h, sending_error]
    exact ⟨by rw [hone, herror]; rfl, herror⟩
  · rw [hoptional, h, sending_ok, Session.execute, hopen, hlink]
    cases reply <;> rfl
  · rw [hone]
    exact .of_expected hadmits
  · rintro wrap (rfl | rfl)
    · exact hread.settledRow_told fun e => OpError.store_isNoRows_iff
    · exact hread.settledRow_told fun e => OpError.ofStore_isNoRows_iff

end Store

/-! ## Reading items -/

theorem Sample.Item.readRow_ne_rowNotFound (row : Store.Row) :
    readRow row ≠ .error .rowNotFound := by
  intro h
  -- each of the two texts is looked up in the same way
  obtain hid | ⟨_, -, h⟩ := bind_eq_error.mp h
  · dsimp only at hid
    split at hid <;> cases hid
  · obtain hname | ⟨_, -, h⟩ := bind_eq_error.mp h
    · dsimp only at hname
      split at hname <;> cases hname
    · cases h

theorem Sample.Item.ofRow_ne_rowNotFound (row : Store.Row) :
    ofRow row ≠ .error (.database .rowNotFound) := by
  have hread := readRow_ne_rowNotFound row
  unfold ofRow
  cases hrow : readRow row with
  | ok item => simp [Except.mapError]
  | error e =>
    rw [hrow] at hread
    simpa [Except.mapError] using hread

namespace Store

/-- An offset of notes that is past their end: it is kept where the limit is replaced. -/
theorem Select.fetchOne_fetchOptional_note :
    let s : Select := Select.run { table := "note" } [.limit 20, .offset 5]
    let session : Session := { link := .up [.answer {}] }
    (s.fetchOptional session).2.sent = [⟨"SELECT * FROM \"note\" LIMIT 1 OFFSET 5", []⟩] ∧
      (s.fetchOne session).1.bind Sample.Item.ofRow = .error (.database .rowNotFound) ∧
      settledRow OpError.ofStore ((s.fetchOne session).1.bind Sample.Item.ofRow) =
        .error .notFound := by
  intro s session
  obtain ⟨-, hsent, -, -, halike, hsettles⟩ :=
    s.fetchOne_fetchOptional session Sample.Item.ofRow Sample.Item.ofRow_ne_rowNotFound
  have hoptional := hsent ⟨"SELECT * FROM \"note\" LIMIT 1 OFFSET 5", []⟩ (.answer {}) []
    (by decide) rfl rfl
  rw [hoptional] at halike hsettles ⊢
  exact ⟨rfl, halike.noRow.mpr rfl, (hsettles _ (.inr rfl)).notFound.mpr rfl⟩

end Store

end Rowgate
