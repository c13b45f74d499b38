import Rowgate.Proofs.Responses
/-
The text of a row that was not found.

An operation can say by a text alone that no row was found, so it matters which errors have that text.
Of the errors of the store only the one for a row not found has it, whatever the names, reasons and
texts that the others hold: each of them starts with a heading, and that text starts with none of the
headings. An error that an operation classified itself, and one of which only the text is known, say
that no row was found exactly if the text is the whole of theirs.

Hence no error of the store passes for another, and what a report settles to is never an error that
says that no row was found. The main result is `noRows_unforged`.
-/
set_option autoImplicit false

namespace Rowgate

/-! ## Headings -/

namespace Store

/-- What the text of an error starts with that is not the one for a row not found. -/
def StoreError.headings : List String :=
  ["Database error: ", "Invalid identifier: ", "Invalid query on ", "Serialization error: "]

theorem StoreError.exists_heading {e : StoreError} (h : e ≠ .database .rowNotFound) :
    ∃ heading ∈ headings, ∃ rest, e.message = heading ++ rest := by
  cases e with
  | database cause =>
    refine ⟨"Database error: ", by simp [headings], cause.message, ?_⟩
    cases cause with
    | rowNotFound => exact absurd rfl h
    | _ => rfl
  | validation cause => exact ⟨"Invalid identifier: ", by simp [headings], cause.message, rfl⟩
  | invalidQuery table reason =>
    refine ⟨"Invalid query on ", by simp [headings], table ++ (": " ++ reason), ?_⟩
    have htext : (invalidQuery table reason).message =
        "Invalid query on " ++ table ++ ": " ++ reason := rfl
    rw [htext, String.append_assoc, String.append_assoc]
  | serialization text => exact ⟨"Serialization error: ", by simp [headings], text, rfl⟩

/-- The text of a row not found goes on behind no heading. -/
theorem noRowsMessage_ne {heading : String} (h : heading ∈ StoreError.headings) (rest : String) :
    noRowsMessage ≠ heading ++ rest := by
  have hstart : ∀ heading ∈ StoreError.headings, ¬ heading.toList <+: noRowsMessage.toList := by
    decide
  intro heq
  refine hstart heading h ?_
  rw [heq, String.toList_append]
  exact List.prefix_append _ _

/-- **No error has the text of a row not found but the one that is.** -/
theorem StoreError.message_eq_iff {e : StoreError} :
    e.message = noRowsMessage ↔ e = .database .rowNotFound := by
  constructor
  · intro hmessage
    by_cases hrow : e = .database .rowNotFound
    · exact hrow
    · obtain ⟨heading, hmem, rest, htext⟩ := exists_heading hrow
      exact absurd (hmessage.symm.trans htext) (noRowsMessage_ne hmem rest)
  · rintro rfl
    rfl

end Store

/-! ## Errors of operations -/

namespace Operation

open Store (StoreError)

theorem OpError.store_isNoRows_iff {e : StoreError} :
    (OpError.store e).isNoRows = true ↔ e = .database .rowNotFound := by
  rw [OpError.isNoRows_iff, NoRows]
  constructor
  · rintro (heq | htext)
    · exact OpError.store.inj heq
    · exact StoreError.message_eq_iff.mp htext
  · rintro rfl
    exact .inl rfl

/-- An error of the store that is taken over says that no row was found if it did so itself, also
where it becomes a status. -/
theorem OpError.ofStore_isNoRows_iff {e : StoreError} :
    (OpError.ofStore e).isNoRows = true ↔ e = .database .rowNotFound := by
  unfold ofStore
  split
  · rw [OpError.isNoRows_iff, NoRows, alreadyExists, or_iff_right (by simp)]
    exact StoreError.message_eq_iff
  · exact OpError.store_isNoRows_iff

/-! ## Reports -/

/-- A report settles to an error exactly if it carries that error and does not show that no row was
there. -/
theorem Report.settle_eq_operation_iff {report : Report} {e : OpError} :
    report.settle = .error (.operation e) ↔ report.error = some e ∧ ¬ report.NoRow := by
  by_cases hrow : report.NoRow
  · simp [report.settle_of_noRow hrow, hrow]
  · rw [report.settle_of_row hrow]
    cases report.error <;> simp [hrow]

/-- A report shows that a row was there if its error does not deny it and its outcome, if it has one,
counts a row. -/
theorem Report.not_noRow_iff {report : Report} {e : OpError} (h : report.error = some e) :
    ¬ report.NoRow ↔ e.isNoRows = false ∧ ∀ outcome, report.outcome = some outcome →
      ∃ rows, outcome.rowsAffected = some rows ∧ 0 < rows := by
  have hcount (count : Option Nat) :
      ¬ (count = some 0 ∨ count = none) ↔ ∃ rows, count = some rows ∧ 0 < rows := by
    cases count <;> simp [Nat.pos_iff_ne_zero]
  rw [Report.NoRow, not_or, and_comm, ← Bool.not_eq_true, OpError.isNoRows_iff, h]
  refine and_congr (by simp) ?_
  simp only [Option.mem_def, not_exists, not_and]
  exact forall₂_congr fun outcome _ => hcount outcome.rowsAffected

/-! ## Main result -/

/-- **The text of a row not found is not forged.** An error of the store has it only if it is the one
for a row not found, whatever it holds, and says only then that no row was found. An error that an
operation classified itself, or of which only the text is known, says so exactly if that text is the
whole of its own. A report settles to an error of an operation exactly if it carries that error, the
error does not say that no row was found, and an outcome beside it counts a row. -/
theorem noRows_unforged :
    (∀ e : StoreError, e.message = "sql: no rows in result set" ↔ e = .database .rowNotFound) ∧
    (∀ e : StoreError, (OpError.store e).isNoRows = true ↔ e = .database .rowNotFound) ∧
    (∀ (status : Status) (text : String),
      (OpError.status status text).isNoRows = true ↔ text = "sql: no rows in result set") ∧
    (∀ text : String,
      (OpError.other text).isNoRows = true ↔ text = "sql: no rows in result set") ∧
    ∀ (report : Report) (e : OpError), report.settle = .error (.operation e) ↔
      report.error = some e ∧ e.isNoRows = false ∧ ∀ outcome, report.outcome = some outcome →
        ∃ rows, outcome.rowsAffected = some rows ∧ 0 < rows := by
  refine ⟨fun e => StoreError.message_eq_iff, fun e => OpError.store_isNoRows_iff,
    fun status text => ?_, fun text => ?_, fun report e => ?_⟩
  · rw [OpError.isNoRows_iff, OpError.NoRows, or_iff_right (by simp)]
    rfl
  · rw [OpError.isNoRows_iff, OpError.NoRows, or_iff_right (by simp)]
    rfl
  · rw [Report.settle_eq_operation_iff]
    exact and_congr_right Report.not_noRow_iff

/-- A refusal on a table with the text of a row not found for its name, beside an outcome that counts
two rows; and the same text alone. -/
theorem noRows_unforged_table :
    let refusal : StoreError := .invalidQuery "sql: no rows in result set" ""
    let report : Report := { outcome := some (.known 2), error := some (.store refusal) }
    refusal.message ≠ "sql: no rows in result set" ∧
      report.settle = .error (.operation (.store refusal)) ∧
      (OpError.other "sql: no rows in result set").isNoRows = true := by
  intro refusal report
  obtain ⟨hmessage, hstore, -, hother, hsettle⟩ := noRows_unforged
  have hne : refusal ≠ .database .rowNotFound := by simp [refusal]
  refine ⟨fun htext => hne ((hmessage refusal).mp htext), (hsettle report _).mpr ⟨rfl, ?_, ?_⟩,
    (hother _).mpr rfl⟩
  · exact Bool.eq_false_iff.mpr fun hrows => hne ((hstore refusal).mp hrows)
  · rintro outcome hsome
    obtain rfl := Option.some.inj hsome
    exact ⟨2, rfl, by decide⟩

end Operation

end Rowgate
