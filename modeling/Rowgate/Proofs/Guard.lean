import Rowgate.Proofs.Draft
import Rowgate.Proofs.Where
/-
Writes and the rows they can leave alone.

Updates and deletions are refused without a filter, so that no statement changes a whole table by
accident. The guard counts filters and does not look at them, and some filters exclude no row: an
empty conjunction, the negation of membership in an empty list, and groups of such. `isVacuous` says
which filters these are, and the condition is exact: a write that is rendered can leave a row alone
if and only if one of its filters is not vacuous.
-/
set_option autoImplicit false

namespace Rowgate

namespace Sql

/-! ## Filters that exclude nothing -/

/-- A question that holds for every row. -/
def Question.isVacuous : Question → Bool
  | .constant holds => holds
  | _ => false

mutual

/-- A filter that holds for every row, whatever its comparisons say. -/
def Filter.isVacuous : Filter → Bool
  | .condition c => c.question.isVacuous
  | .group .and filters => allVacuous filters
  | .group .or filters => anyVacuous filters

def Filter.allVacuous : List Filter → Bool
  | [] => true
  | f :: rest => isVacuous f && allVacuous rest

def Filter.anyVacuous : List Filter → Bool
  | [] => false
  | f :: rest => isVacuous f || anyVacuous rest

end

theorem Filter.allVacuous_eq_false_iff {fs : List Filter} :
    allVacuous fs = false ↔ ∃ f ∈ fs, f.isVacuous = false := by
  induction fs with
  | nil => simp [allVacuous]
  | cons f fs ih =>
    rw [allVacuous, Bool.and_eq_false_iff, ih]
    simp

mutual

/-- Where every comparison fails, a filter holds exactly if it is vacuous. -/
theorem Filter.meaning_fails : ∀ (first : Nat) (f : Filter),
    f.meaning (fun _ => .fails) first = .ofBool f.isVacuous
  | first, .condition c => by
    rw [meaning, isVacuous]
    cases c.question <;> rfl
  | first, .group .and fs => by rw [meaning, isVacuous, all_meanings_fails]
  | first, .group .or fs => by rw [meaning, isVacuous, any_meanings_fails]

theorem Filter.all_meanings_fails : ∀ (first : Nat) (fs : List Filter),
    Truth.all (meanings (fun _ => .fails) first fs) = .ofBool (allVacuous fs)
  | _, [] => rfl
  | first, f :: fs => by
    rw [meanings, Truth.all_cons, meaning_fails first f, all_meanings_fails _ fs, allVacuous,
      Truth.ofBool_and]

theorem Filter.any_meanings_fails : ∀ (first : Nat) (fs : List Filter),
    Truth.any (meanings (fun _ => .fails) first fs) = .ofBool (anyVacuous fs)
  | _, [] => rfl
  | first, f :: fs => by
    rw [meanings, Truth.any_cons, meaning_fails first f, any_meanings_fails _ fs, anyVacuous,
      Truth.ofBool_or]

end

mutual

/-- A vacuous filter holds whatever the comparisons say. -/
theorem Filter.meaning_of_isVacuous (truth : Atom → Truth) : ∀ (first : Nat) (f : Filter),
    f.isVacuous = true → f.meaning truth first = .holds
  | first, .condition c, h => by
    rw [isVacuous] at h
    rw [meaning]
    cases hq : c.question with
    | constant holds =>
      rw [hq] at h
      have hholds : holds = true := h
      rw [hholds]
      rfl
    | nullity isNull => rw [hq] at h; cases h
    | compare comparison value => rw [hq] at h; cases h
    | membership isIn value values => rw [hq] at h; cases h
  | first, .group .and fs, h => by
    rw [isVacuous] at h
    rw [meaning]
    exact all_meanings_of_allVacuous truth first fs h
  | first, .group .or fs, h => by
    rw [isVacuous] at h
    rw [meaning]
    exact any_meanings_of_anyVacuous truth first fs h

theorem Filter.all_meanings_of_allVacuous (truth : Atom → Truth) : ∀ (first : Nat)
    (fs : List Filter), allVacuous fs = true → Truth.all (meanings truth first fs) = .holds
  | _, [], _ => rfl
  | first, f :: fs, h => by
    rw [allVacuous, Bool.and_eq_true] at h
    rw [meanings, Truth.all_cons, meaning_of_isVacuous truth first f h.1,
      all_meanings_of_allVacuous truth _ fs h.2]
    rfl

theorem Filter.any_meanings_of_anyVacuous (truth : Atom → Truth) : ∀ (first : Nat)
    (fs : List Filter), anyVacuous fs = true → Truth.any (meanings truth first fs) = .holds
  | _, [], h => by cases h
  | first, f :: fs, h => by
    rw [anyVacuous, Bool.or_eq_true] at h
    rw [meanings, Truth.any_cons]
    rcases h with h | h
    · rw [meaning_of_isVacuous truth first f h]
      rfl
    · rw [any_meanings_of_anyVacuous truth _ fs h, Truth.or_holds]

end

/-- **Which conjunctions can fail**: those of which a member is not vacuous. -/
theorem Filter.all_meanings_fails_iff (first : Nat) (fs : List Filter) :
    (∃ truth, Truth.all (meanings truth first fs) = .fails) ↔ ∃ f ∈ fs, f.isVacuous = false := by
  rw [← allVacuous_eq_false_iff]
  constructor
  · rintro ⟨truth, hfails⟩
    cases hvacuous : allVacuous fs with
    | false => rfl
    | true =>
      rw [all_meanings_of_allVacuous truth first fs hvacuous] at hfails
      cases hfails
  · intro h
    -- comparisons that all fail make the conjunction as small as it can be
    exact ⟨fun _ => .fails, by rw [all_meanings_fails, h]; rfl⟩

/-! ## The clause in the text -/

/-- The conditions of a statement, behind the number of their first placeholder. -/
def Statement.conditions : Statement → Nat × List Predicate
  | .select _ _ conditions _ _ => (1, conditions)
  | .count _ conditions => (1, conditions)
  | .insert _ _ _ => (1, [])
  | .update _ assignments conditions _ =>
    (1 + (Assigned.slotsOf assignments).length, conditions)
  | .delete _ conditions _ => (1, conditions)

/-- The `WHERE` clause of a statement. -/
def Statement.whereClause (s : Statement) : String :=
  Predicate.whereClause s.conditions.1 s.conditions.2

/-- The formula that the clause is written from. -/
def Statement.condition (s : Statement) : Option Formula :=
  Formula.joinFrom .and none (Predicate.formulas s.conditions.1 s.conditions.2)

/-- The clause stands behind the head of a text, and what follows it behind it. -/
theorem joinParts_where {head : String} (hhead : head ≠ "") (body tail : String) :
    ∃ behind, joinParts [head, "WHERE " ++ body, tail] = head ++ " WHERE " ++ body ++ behind := by
  refine ⟨if tail.isEmpty then "" else " " ++ tail, ?_⟩
  rw [← String.toList_inj, toList_joinParts hhead]
  by_cases htail : tail = ""
  · simp [htail]
  · simp [htail]

end Sql

namespace Store

/-- Statements that change rows that are there. -/
def Builder.isWrite : Builder → Bool
  | .update _ => true
  | .delete _ => true
  | _ => false

def Builder.table : Builder → String
  | .select s => s.table
  | .count s => s.table
  | .insert i => i.table
  | .update u => u.table
  | .delete d => d.table

/-- A write is refused with the error: there is no text, and in whichever way it is executed, and
whatever is read of the rows it gives back, the session is left as it was. -/
def Builder.RefusedWith (e : StoreError) : Builder → Prop
  | .update u => u.render = .error e ∧ ∀ session,
    u.execute session = (.error e, session) ∧ ∀ {ρ : Type} (read : Row → Except LinkError ρ),
      u.fetchReturning read session = (.error e, session)
  | .delete d => d.render = .error e ∧ ∀ session,
    d.execute session = (.error e, session) ∧ ∀ {ρ : Type} (read : Row → Except LinkError ρ),
      d.fetchReturning read session = (.error e, session)
  | _ => False

/-- Without a filter an update is refused, whatever it gives back. -/
theorem Update.statement_of_noFilter (u : Update) (h : u.filters = []) :
    ∃ e, (∀ names, Update.statement { u with returning := names } = .error e) ∧
      ∀ table, Sql.Identifier.ofName u.table = .ok table →
        ∃ reason, e = .invalidQuery u.table reason := by
  obtain ⟨table, set, filters, types, returning⟩ := u
  obtain rfl : filters = [] := h
  cases htable : Sql.Identifier.ofName table with
  | error e =>
    refine ⟨.validation e, fun names => ?_, fun i hi => by cases hi⟩
    rw [Update.statement, htable]
    rfl
  | ok i =>
    -- assignments are asked for first, and both refusals name the query
    cases set with
    | nil =>
      refine ⟨.invalidQuery table "update without assignments", fun names => ?_,
        fun _ _ => ⟨_, rfl⟩⟩
      rw [Update.statement, htable]
      rfl
    | cons first rest =>
      refine ⟨.invalidQuery table "update without filter", fun names => ?_, fun _ _ => ⟨_, rfl⟩⟩
      rw [Update.statement, htable]
      rfl

/-- Without a filter a deletion is refused, whatever it gives back. -/
theorem Delete.statement_of_noFilter (d : Delete) (h : d.filters = []) :
    ∃ e, (∀ names, Delete.statement { d with returning := names } = .error e) ∧
      ∀ table, Sql.Identifier.ofName d.table = .ok table →
        ∃ reason, e = .invalidQuery d.table reason := by
  obtain ⟨table, filters, types, returning⟩ := d
  obtain rfl : filters = [] := h
  cases htable : Sql.Identifier.ofName table with
  | error e =>
    refine ⟨.validation e, fun names => ?_, fun i hi => by cases hi⟩
    rw [Delete.statement, htable]
    rfl
  | ok i =>
    refine ⟨.invalidQuery table "delete without filter", fun names => ?_, fun _ _ => ⟨_, rfl⟩⟩
    rw [Delete.statement, htable]
    rfl

/-- **Without a filter nothing is sent.** The query is the reason, unless the table is none. -/
theorem Builder.refused_of_noFilter {b : Builder} (hwrite : b.isWrite = true)
    (h : b.filters = []) : ∃ e, b.RefusedWith e ∧ ∀ table,
      Sql.Identifier.ofName b.table = .ok table → ∃ reason, e = .invalidQuery b.table reason := by
  cases b with
  | update u =>
    obtain ⟨e, hstatement, hreason⟩ := u.statement_of_noFilter h
    refine ⟨e, ⟨?_, fun session => ⟨?_, fun read => ?_⟩⟩, hreason⟩
    · rw [Update.render, hstatement u.returning]
      rfl
    · rw [Update.execute, Update.render, hstatement u.returning]
      rfl
    · rw [Update.fetchReturning, Update.render, Update.givingBack, hstatement]
      rfl
  | delete d =>
    obtain ⟨e, hstatement, hreason⟩ := d.statement_of_noFilter h
    refine ⟨e, ⟨?_, fun session => ⟨?_, fun read => ?_⟩⟩, hreason⟩
    · rw [Delete.render, hstatement d.returning]
      rfl
    · rw [Delete.execute, Delete.render, hstatement d.returning]
      rfl
    · rw [Delete.fetchReturning, Delete.render, Delete.givingBack, hstatement]
      rfl
  | select s => cases hwrite
  | count s => cases hwrite
  | insert i => cases hwrite

/-- The condition of a write stands in its text and means what the filters of the builder mean. -/
theorem Builder.clause_means {b : Builder} (hwrite : b.isWrite = true) {s : Sql.Statement}
    (h : b.statement = .ok s) :
    ∃ head body behind e, s.text = head ++ " WHERE " ++ body ++ behind ∧
      s.whereClause = "WHERE " ++ body ∧ s.condition = some e ∧
      (Sql.PlainTypes b.columnTypes → Sql.read body = some e) ∧ ∀ truth,
        e.value truth = Sql.Truth.all (Sql.Filter.meanings truth s.conditions.1 b.filters) := by
  cases b with
  | update u =>
    obtain ⟨table, assignments, conditions, returning, _, _, hne, _, hconditions, _, rfl⟩ :=
      Update.statement_cases h
    obtain ⟨body, e, hbody, hmeans⟩ := Sql.Filter.clause_means hne hconditions
      (1 + (Sql.Assigned.slotsOf assignments).length)
    have hhead : "UPDATE " ++ table.quoted ++ " SET " ++
        String.intercalate ", " (Sql.Assigned.texts 1 assignments) ≠ "" := by simp
    obtain ⟨behind, hjoin⟩ := Sql.joinParts_where hhead body (Sql.returningClause returning)
    rw [← hbody] at hjoin
    exact ⟨_, body, behind, e, hjoin, hbody, hmeans⟩
  | delete d =>
    obtain ⟨table, conditions, returning, _, hne, hconditions, _, rfl⟩ := Delete.statement_cases h
    obtain ⟨body, e, hbody, hmeans⟩ := Sql.Filter.clause_means hne hconditions 1
    have hhead : "DELETE FROM " ++ table.quoted ≠ "" := by simp
    obtain ⟨behind, hjoin⟩ := Sql.joinParts_where hhead body (Sql.returningClause returning)
    rw [← hbody] at hjoin
    exact ⟨_, body, behind, e, hjoin, hbody, hmeans⟩
  | select s => cases hwrite
  | count s => cases hwrite
  | insert i => cases hwrite

/-- **When a write leaves rows alone.** A write without filters is refused and nothing is sent. One
that is rendered has a condition behind `WHERE `, which unless a type hides a keyword is read back
from the text, and there are truth values of its comparisons under which the condition fails if and
only if one of the filters is not vacuous. So a write is not refused if it has filters and all of
them are vacuous, and it touches every row. -/
theorem Builder.write_condition {b : Builder} (hwrite : b.isWrite = true) :
    (b.filters = [] → ∃ e, b.RefusedWith e ∧ ∀ table,
      Sql.Identifier.ofName b.table = .ok table → ∃ reason, e = .invalidQuery b.table reason) ∧
    ∀ r, b.render = .ok r → ∃ s head body behind e, b.statement = .ok s ∧
      r.text = head ++ " WHERE " ++ body ++ behind ∧ s.whereClause = "WHERE " ++ body ∧
      s.condition = some e ∧ (Sql.PlainTypes b.columnTypes → Sql.read body = some e) ∧
      ((∃ truth, e.value truth = .fails) ↔ ∃ f ∈ b.filters, f.isVacuous = false) := by
  refine ⟨refused_of_noFilter hwrite, fun r hrender => ?_⟩
  rw [render_eq] at hrender
  obtain ⟨s, hstatement, rfl⟩ := map_eq_ok.mp hrender
  obtain ⟨head, body, behind, e, htext, hclause, hcondition, hread, hvalue⟩ :=
    clause_means hwrite hstatement
  refine ⟨s, head, body, behind, e, hstatement, htext, hclause, hcondition, hread, ?_⟩
  rw [← Sql.Filter.all_meanings_fails_iff s.conditions.1]
  constructor
  · rintro ⟨truth, h⟩
    exact ⟨truth, (hvalue truth).symm.trans h⟩
  · rintro ⟨truth, h⟩
    exact ⟨truth, (hvalue truth).trans h⟩

/-- A deletion whose one filter is an empty conjunction: its condition cannot fail. -/
theorem Builder.write_condition_delete :
    let b : Builder := .delete { table := "item", filters := [.and []] }
    ∃ r, b.render = .ok r ∧ r.text = "DELETE FROM \"item\" WHERE 1=1" ∧
      ∃ head body behind e, r.text = head ++ " WHERE " ++ body ++ behind ∧
        Sql.read body = some e ∧ ¬∃ truth, e.value truth = .fails := by
  intro b
  obtain ⟨r, hrender, htext⟩ : ∃ r, b.render = .ok r ∧
      r.text = "DELETE FROM \"item\" WHERE 1=1" := ⟨_, rfl, by decide⟩
  obtain ⟨s, head, body, behind, e, _, hsplit, _, _, hread, hiff⟩ :=
    (write_condition (b := b) rfl).2 r hrender
  have hplain : Sql.PlainTypes b.columnTypes := fun column type h => by cases h
  refine ⟨r, hrender, htext, head, body, behind, e, hsplit, hread hplain, ?_⟩
  rw [hiff]
  decide

end Store

end Rowgate
