import Rowgate.Proofs.Pages
import Rowgate.Proofs.Recovery
import Rowgate.Proofs.Regrouping
import Rowgate.Proofs.SingleRow
/-
Counting the rows of a selection.

A count looks at the table, the filters and the types of columns, and at nothing else of a selection
(`Select.counted`). So it is refused for the table and for the conditions only, and steps about
columns, order and page, also those that a selection is refused for, leave what it sends as it is.
Where the selection itself is accepted, the conditions of both are written by the same clause with
the same numbers, and bind the same values.

That the clause is the same is said twice: both texts are put together from it, and, as long as no
type has a space in its name, it is read back from both of them.
-/
set_option autoImplicit false

namespace Rowgate.Store

open Sql (Clause Identifier)
open Sql.Page (behind)

namespace Select

/-! ## What a count looks at -/

/-- The selection without its columns, its order and its page. -/
def counted (s : Select) : Select :=
  { table := s.table
    query := { filters := s.query.filters, columnTypes := s.query.columnTypes } }

/-- Whether a step is about the conditions or the types of columns. -/
def Step.narrows (step : Step) : Bool :=
  step.concern = .conditions || step.concern = .types

theorem renderCount_counted (s : Select) : s.counted.renderCount = s.renderCount := rfl

theorem count_eq_of_counted {s s' : Select} (h : s.counted = s'.counted) : s.count = s'.count := by
  rw [count, count, ← renderCount_counted, h, renderCount_counted]

/-- No step changes the table. -/
theorem table_run (s : Select) (steps : List Step) : (s.run steps).table = s.table := by
  induction steps generalizing s with
  | nil => rfl
  | cons step steps ih => exact (ih (s.apply step)).trans (by cases step <;> rfl)

/-- One step changes what a count looks at only if it narrows, and then as it changes a selection of
which there is nothing else. -/
theorem counted_apply (s : Select) (step : Step) :
    (s.apply step).counted = if step.narrows then s.counted.apply step else s.counted := by
  cases step <;> rfl

theorem counted_run (s : Select) (steps : List Step) :
    (s.run steps).counted = s.counted.run (steps.filter Step.narrows) := by
  -- a step that does not narrow is not among those that are left
  induction steps generalizing s with
  | nil => rfl
  | cons step steps ih =>
    show ((s.apply step).run steps).counted = _
    rw [ih, counted_apply]
    cases hstep : step.narrows with
    | true =>
      rw [List.filter_cons_of_pos hstep]
      rfl
    | false =>
      rw [List.filter_cons_of_neg (by simp [hstep])]
      rfl

/-! ## What a count comes to -/

/-- A count is refused for the table first, and then for the conditions. -/
theorem renderCount_eq_error {s : Select} {e : StoreError} :
    s.renderCount = .error e ↔ ∃ cause, e = .validation cause ∧
      (Identifier.rejection? s.table = some cause ∨
        Identifier.rejection? s.table = none ∧ s.query.whereClause 1 = .error cause) := by
  rw [renderCount, map_eq_error]
  constructor
  · intro h
    obtain htable | ⟨table, htable, h⟩ := bind_eq_error.mp h
    · obtain ⟨cause, hcause, rfl⟩ := checked_eq_error.mp htable
      exact ⟨cause, rfl, .inl (Identifier.ofName_eq_error.mp hcause)⟩
    · obtain hconditions | ⟨conditions, -, h⟩ := bind_eq_error.mp h
      · obtain ⟨cause, hcause, rfl⟩ := checked_eq_error.mp hconditions
        have hname : table.name = s.table := Identifier.ofName_eq_ok.mp (checked_eq_ok.mp htable)
        exact ⟨cause, rfl, .inr ⟨hname ▸ table.accepted, bind_eq_error.mpr (.inl hcause)⟩⟩
      · cases h
  · rintro ⟨cause, rfl, htable | ⟨htable, hwhere⟩⟩
    · exact bind_eq_error.mpr
        (.inl (checked_eq_error.mpr ⟨cause, Identifier.ofName_eq_error.mpr htable, rfl⟩))
    · obtain hconditions | ⟨conditions, -, h⟩ := bind_eq_error.mp hwhere
      · have hname : Identifier.ofName s.table = .ok ⟨s.table, htable⟩ :=
          Identifier.ofName_eq_ok.mpr rfl
        exact bind_eq_error.mpr (.inr ⟨_, checked_eq_ok.mpr hname,
          bind_eq_error.mpr (.inl (checked_eq_error.mpr ⟨cause, hconditions, rfl⟩))⟩)
      · cases h

theorem countStatement_eq_ok {s : Select} {i : Identifier} {conditions : List Sql.Predicate}
    (htable : Identifier.ofName s.table = .ok i) (hconditions : s.query.predicates = .ok conditions) :
    s.countStatement = .ok (.count i conditions) :=
  bind_eq_ok.mpr ⟨i, checked_eq_ok.mpr htable,
    bind_eq_ok.mpr ⟨conditions, checked_eq_ok.mpr hconditions, rfl⟩⟩

/-- Any other count has the clause of the conditions behind it. -/
theorem renderCount_eq_ok {s : Select} {i : Identifier} {clause : Sql.Rendered}
    (htable : Identifier.ofName s.table = .ok i) (hwhere : s.query.whereClause 1 = .ok clause) :
    s.renderCount =
      .ok ⟨behind ("SELECT COUNT(*) FROM " ++ i.quoted) clause.text, clause.values⟩ := by
  obtain ⟨conditions, hconditions, h⟩ := bind_eq_ok.mp hwhere
  cases h
  have hhead : "SELECT COUNT(*) FROM " ++ i.quoted ≠ "" := by simp
  have htext := Sql.Page.joinParts_behind hhead [Sql.Predicate.whereClause 1 conditions]
  rw [renderCount, countStatement_eq_ok htable hconditions]
  exact congrArg (fun text => Except.ok (Sql.Rendered.mk text _)) htext

/-- What refuses a count on every session is what refuses its text. -/
theorem count_refused_iff {s : Select} {e : StoreError} :
    (∀ session, s.count session = (.error e, session)) ↔ s.renderCount = .error e := by
  constructor
  · intro h
    -- a session that takes everything shows whether anything was sent
    have hopen := h { link := .up [] }
    rw [count] at hopen
    cases hrender : s.renderCount with
    | error e' =>
      rw [hrender, sending_error] at hopen
      exact congrArg Except.error (Except.error.inj (congrArg Prod.fst hopen))
    | ok r =>
      rw [hrender] at hopen
      have hsent := (sending_up r rfl rfl).symm.trans (congrArg Prod.snd hopen)
      simp at hsent
  · intro h session
    rw [count, h, sending_error]

/-! ## The conditions of a selection and of its count -/

/-- A selection that is accepted has the clauses of conditions, order and page behind it. -/
theorem render_cases {s : Select} {r : Sql.Rendered} (h : s.render = .ok r) :
    ∃ (i : Identifier) (columns : Sql.Columns) (clause order : String),
      Identifier.ofName s.table = .ok i ∧ Sql.Columns.ofNames s.columns = .ok columns ∧
      s.query.whereClause 1 = .ok ⟨clause, r.values⟩ ∧ s.query.orderClause = .ok order ∧
      r.text = behind (behind (behind ("SELECT " ++ columns.text ++ " FROM " ++ i.quoted) clause)
        order) s.query.page.text := by
  obtain ⟨statement, hstatement, rfl⟩ := map_eq_ok.mp h
  obtain ⟨i, columns, conditions, order, htable, hcolumns, hconditions, horder, rfl⟩ :=
    statement_cases hstatement
  refine ⟨i, columns, Sql.Predicate.whereClause 1 conditions, Sql.SortTerm.clause order, htable,
    hcolumns, ?_, ?_, ?_⟩
  · exact bind_eq_ok.mpr ⟨conditions, hconditions, rfl⟩
  · exact bind_eq_ok.mpr ⟨order, horder, rfl⟩
  · have hhead : "SELECT " ++ columns.text ++ " FROM " ++ i.quoted ≠ "" := by simp
    exact Sql.Page.joinParts_behind hhead _

/-- Of the clauses of a selection its count has the table and the conditions. -/
theorem read?_renderCount {s : Select} (htypes : Sql.SolidTypes s.query.columnTypes)
    {r c : Sql.Rendered} (hrender : s.render = .ok r) (hcount : s.renderCount = .ok c)
    (clause : Clause) : clause.read? c.text.toList =
      if clause = .table ∨ clause = .conditions then clause.read? r.text.toList else none := by
  obtain ⟨statement, hstatement, rfl⟩ := map_eq_ok.mp hrender
  obtain ⟨i, columns, conditions, order, htable, hcolumns, hconditions, -, rfl⟩ :=
    statement_cases hstatement
  have hsolid := Sql.Filter.checkAll_solid htypes hconditions
  have hselect : clause.read? (Sql.Statement.select i columns conditions order
      s.query.page).text.toList = clause.text i conditions order s.query.page :=
    (Sql.Statement.read?_select hsolid (Sql.Columns.names_of_ofNames hcolumns).2).2 clause
  rw [renderCount, countStatement_eq_ok htable hconditions] at hcount
  cases hcount
  show clause.read? (Sql.Statement.count i conditions).text.toList =
    if clause = .table ∨ clause = .conditions then
      clause.read? (Sql.Statement.select i columns conditions order s.query.page).text.toList
    else none
  rw [hselect, Sql.Statement.read?_count hsolid]
  cases clause <;> rfl

/-! ## Main result -/

/-- **What a count counts.** Of a selection after any steps the count is refused, and then sends
nothing, exactly for what is wrong with the name of the table or else with the conditions. Otherwise
an open session sends one statement, the conditions behind its head, with their values. Where the
selection is accepted, that is the clause of the selection, with its values, and the table and the
conditions that are read from both texts are the same. And steps about columns, order and page can be
added, left out or moved, whatever they are: the count is the same. -/
theorem count_of_steps (table : String) (steps : List Step) :
    let s : Select := Select.run { table } steps
    let head (i : Identifier) : String := "SELECT COUNT(*) FROM " ++ i.quoted
    (∀ e, (∀ session, s.count session = (.error e, session)) ↔ ∃ cause, e = .validation cause ∧
      (Identifier.rejection? table = some cause ∨
        Identifier.rejection? table = none ∧ s.query.whereClause 1 = .error cause)) ∧
    (∀ i clause values, Identifier.ofName table = .ok i →
      s.query.whereClause 1 = .ok ⟨clause, values⟩ →
      ∀ (session : Session) (replies : List Reply), session.closed = false →
        session.link = .up replies →
        (s.count session).2 = { session with
          link := .up (replies.drop 1)
          sent := session.sent ++ [⟨behind (head i) clause, values.map .ofJson⟩] }) ∧
    (∀ r, s.render = .ok r → ∃ i columns clause order, Identifier.ofName table = .ok i ∧
      Sql.Columns.ofNames s.columns = .ok columns ∧
      s.query.whereClause 1 = .ok ⟨clause, r.values⟩ ∧ s.query.orderClause = .ok order ∧
      r.text = behind (behind (behind ("SELECT " ++ columns.text ++ " FROM " ++ i.quoted) clause)
        order) s.query.page.text ∧
      (Sql.SolidTypes s.query.columnTypes → ∀ part : Clause,
        part.read? (behind (head i) clause).toList =
          if part = .table ∨ part = .conditions then part.read? r.text.toList else none)) ∧
    ∀ steps' : List Step, steps'.filter Step.narrows = steps.filter Step.narrows →
      (Select.run { table } steps').count = s.count := by
  intro s head
  have htable : s.table = table := table_run { table } steps
  refine ⟨fun e => ?_, fun i clause values hi hwhere session replies hopen hlink => ?_,
    fun r hrender => ?_, fun steps' hsteps => ?_⟩
  · rw [count_refused_iff, renderCount_eq_error, htable]
  · have hcount : s.renderCount = .ok ⟨behind (head i) clause, values⟩ :=
      renderCount_eq_ok (htable.symm ▸ hi) hwhere
    rw [count, hcount, sending_up _ hopen hlink]
    rfl
  · obtain ⟨i, columns, clause, order, hi, hcolumns, hwhere, horder, htext⟩ :=
      render_cases hrender
    refine ⟨i, columns, clause, order, htable ▸ hi, hcolumns, hwhere, horder, htext,
      fun htypes part => ?_⟩
    exact read?_renderCount htypes hrender (renderCount_eq_ok hi hwhere) part
  · refine count_eq_of_counted ?_
    rw [counted_run, counted_run, hsteps]

/-- A sort column that no name is given to refuses the selection. The count goes on without it, and
without the limit. -/
theorem count_of_steps_unsorted :
    let steps : List Step := [.limit 1, .columnType "owner" "uuid", .orderBy "no name" .ascending,
      .filter (.eq "owner" (.string "x")), .columns ["_id"]]
    let s : Select := Select.run { table := "note" } steps
    let counting : Sent :=
      ⟨"SELECT COUNT(*) FROM \"note\" WHERE \"owner\" = $1::uuid", [.text "x"]⟩
    s.render = .error (.validation (.badCharacter "no name")) ∧
      (s.count { link := .up [.answer {}] }).2 = { link := .up [], sent := [counting] } ∧
      (Select.run { table := "note" } (steps.filter Step.narrows)).count = s.count := by
  intro steps s counting
  obtain ⟨-, hsends, -, hsteps⟩ := count_of_steps "note" steps
  have hwhere : s.query.whereClause 1 = .ok ⟨"WHERE \"owner\" = $1::uuid", [.string "x"]⟩ := by
    decide
  refine ⟨by decide, ?_, hsteps _ (by simp)⟩
  exact (hsends ⟨"note", rfl⟩ _ _ rfl hwhere _ [.answer {}] rfl rfl).trans (by decide)

end Select

end Rowgate.Store
