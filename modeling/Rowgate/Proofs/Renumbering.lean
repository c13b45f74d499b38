import Rowgate.Proofs.Guard
import Rowgate.Proofs.Placeholder
/-
Placeholders that start at another number.

A clause is numbered from wherever the statement before it has come to. The start number is carried
through the trees and past every list that binds several values; what it does to the text is said
here on the text alone. `shift` reads a text and adds a number to each placeholder, and the clause
that starts later by some number is the clause with this number added (`Query.whereClause_shift`):
the values, the errors and all that stands between the placeholders do not depend on the start.

So the condition of an update is that of a deletion, shifted by the number of values that the
assignments bind.
-/
set_option autoImplicit false

namespace Rowgate

namespace Sql

/-! ## Shifting a text -/

/-- The digits of a placeholder with `m` added to their number. A `$` without digits stays as it
is. -/
def shiftDigits (m : Nat) (digits : List Char) : List Char :=
  if digits.isEmpty then [] else (toString (Nat.ofDigitChars 10 digits 0 + m)).toList

/-- A text with `m` added to the number of each placeholder. The digits that follow at once are left
out if they are those of a placeholder, whose new digits are written already. -/
def shiftFrom (m : Nat) : Bool → List Char → List Char
  | _, [] => []
  | inNumber, c :: cs =>
    if c = '$' then '$' :: (shiftDigits m (cs.takeWhile Char.isDigit) ++ shiftFrom m true cs)
    else if inNumber && c.isDigit then shiftFrom m true cs
    else c :: shiftFrom m false cs

/-- A text with `m` added to the number of each placeholder. -/
def shift (m : Nat) (text : String) : String := String.ofList (shiftFrom m false text.toList)

section Shift

variable {m : Nat} {cs rest : List Char}

theorem shiftFrom_append (h : '$' ∉ cs) :
    shiftFrom m false (cs ++ rest) = cs ++ shiftFrom m false rest := by
  induction cs with
  | nil => rfl
  | cons c cs ih =>
    have hc : c ≠ '$' := fun heq => h (heq ▸ List.mem_cons_self)
    rw [List.cons_append, shiftFrom, if_neg hc, if_neg (by simp),
      ih fun hmem => h (List.mem_cons_of_mem _ hmem)]
    rfl

/-- The digits of a placeholder are left out, up to the first character that is none. -/
theorem shiftFrom_digits (hdigits : ∀ c ∈ cs, c.isDigit = true)
    (hrest : ∀ c ∈ rest.head?, c.isDigit = false) :
    shiftFrom m true (cs ++ rest) = shiftFrom m false rest := by
  induction cs with
  | nil =>
    cases rest with
    | nil => rfl
    | cons c rest =>
      have hc : c.isDigit = false := hrest c rfl
      rw [List.nil_append, shiftFrom, shiftFrom, hc]
      rfl
  | cons c cs ih =>
    obtain ⟨hc, hcs⟩ := List.forall_mem_cons.mp hdigits
    have hdollar : c ≠ '$' := by
      rintro rfl
      cases hc
    rw [List.cons_append, shiftFrom, if_neg hdollar, if_pos (by simp [hc]), ih hcs]

theorem shiftDigits_toString (m n : Nat) :
    shiftDigits m (toString n).toList = (toString (n + m)).toList := by
  have hne : (toString n).toList.isEmpty = false := by
    rw [Nat.toString_eq_repr, Nat.toList_repr]
    exact List.isEmpty_eq_false_iff.mpr Nat.toDigits_ne_nil
  have hvalue : Nat.ofDigitChars 10 (toString n).toList 0 = n := by
    rw [Nat.toString_eq_repr, Nat.toList_repr]
    exact Nat.ofDigitChars_toDigits (by decide) (by decide)
  rw [shiftDigits, hne, hvalue]
  rfl

/-- A placeholder is shifted as one. -/
theorem Slot.shiftFrom_text (s : Slot) (number m : Nat) (hrest : Stops rest) :
    shiftFrom m false ((s.text number).toList ++ rest) =
      (s.text (number + m)).toList ++ shiftFrom m false rest := by
  have htail := s.tail_notMem (by decide : '$'.isDigit = false) (by decide) (by decide) number
  have hcast : '$' ∉ castChars (s.cast.map (·.name)) :=
    fun hmem => htail (List.mem_append_right _ hmem)
  have hdigits : ∀ c ∈ (toString number).toList, c.isDigit = true :=
    fun c hmem => isDigit_of_mem_toString hmem
  have hend := s.not_isDigit_behind hrest
  rw [s.toList_text, s.toList_text, List.cons_append, shiftFrom, if_pos rfl, List.append_assoc,
    (span_toString number hend).1, shiftDigits_toString, shiftFrom_digits hdigits hend,
    shiftFrom_append hcast, List.cons_append, List.append_assoc]

end Shift

/-! ## Clauses -/

/-- **Pieces that start at a later number** are the pieces shifted. -/
theorem Piece.charsOf_add {led : Prop} {ps : List Piece} {current : Option Identifier}
    (horder : Orderly led current ps) (first m : Nat) :
    charsOf (first + m) ps = shiftFrom m false (charsOf first ps) := by
  induction ps generalizing first current with
  | nil => rfl
  | cons p rest ih =>
    cases p with
    | fixed text =>
      obtain ⟨hdollar, _, hrest⟩ := horder
      rw [charsOf, charsOf, shiftFrom_append hdollar, ih hrest]
    | name identifier =>
      rw [charsOf, charsOf, shiftFrom_append identifier.dollar_notMem_quoted, ih horder]
    | slot column s =>
      obtain ⟨_, hstop, hrest⟩ := horder
      have hnext : first + m + 1 = first + 1 + m := Nat.add_right_comm first m 1
      rw [charsOf, charsOf, s.shiftFrom_text first m (hstop.stops (first + 1)), hnext, ih hrest]
    | expression sql =>
      obtain ⟨hdollar, hrest⟩ := horder
      rw [charsOf, charsOf, shiftFrom_append hdollar, ih hrest]

/-- The numbers of the placeholders in pieces count on from the first one. -/
theorem Piece.digits_marksFrom {ps : List Piece} (horder : Orderly True none ps) (first : Nat) :
    (marksFrom [] (charsOf first ps)).map (·.digits) =
      (List.range' first (slots ps).length).map fun n => (toString n).toList := by
  have hdigits := congrArg (List.map Prod.fst) (places_marksFrom horder first)
  rw [List.map_map, List.map_map] at hdigits
  rw [← map_bound, List.length_map, ← List.zipIdx_map_snd, List.map_map]
  exact hdigits

theorem Predicate.whereClause_add (first m : Nat) (parts : List Predicate) :
    whereClause (first + m) parts = shift m (whereClause first parts) := by
  have horder : Piece.Orderly True none (wherePieces parts) := (closed_wherePieces parts).orderly
  rw [← String.toList_inj, shift, String.toList_ofList, ← charsOf_wherePieces,
    ← charsOf_wherePieces, Piece.charsOf_add horder]

/-- **A clause that starts at a later number** is the clause shifted, with the same values; and where
there is none, the error is the same. -/
theorem Query.whereClause_add (query : Query) (first m : Nat) :
    query.whereClause (first + m) =
      (query.whereClause first).map fun r => ⟨shift m r.text, r.values⟩ := by
  rw [whereClause, whereClause]
  cases query.predicates with
  | error e => rfl
  | ok parts =>
    show Except.ok _ = Except.ok _
    rw [Predicate.whereClause_add]

end Sql

/-! ## Updates and deletions -/

namespace Store

/-- The values that an update binds for the columns it sets. -/
def Update.setValues (u : Update) : List Json := (u.set.flatMap Builder.assigned).map (·.value)

/-- The conditions of an update, as a query. -/
def Update.query (u : Update) : Sql.Query := { filters := u.filters, columnTypes := u.columnTypes }

/-- The deletion with the table and the conditions of an update. -/
def Update.asDelete (u : Update) (returning : List String) : Delete :=
  { table := u.table, filters := u.filters, columnTypes := u.columnTypes, returning }

/-- The slots of checked assignments hold the values that columns are set to. -/
theorem Update.values_assigned {types : Keyed String} {set : Assignments NewValue}
    {assignments : List (Sql.Identifier × Sql.Assigned)}
    (h : Update.assigned types set = .ok assignments) :
    (Sql.Assigned.slotsOf assignments).map (·.value) =
      (set.flatMap Builder.assigned).map (·.value) := by
  rw [← Sql.Operand.values_of_fits (Update.assigned_operands h),
    ← Sql.Piece.bound_joined ", ", ← Sql.Assigned.slots_piecesOf, ← Sql.Piece.slots_joined ", ",
    ← Sql.Piece.map_bound, List.map_map]
  rfl

/-- The placeholders of assignments are numbered from one on. -/
theorem Update.digits_assigned {assignments : List (Sql.Identifier × Sql.Assigned)}
    (h : ∀ sql ∈ Sql.Assigned.expressions assignments, '$' ∉ sql.toList) :
    (Sql.marks (String.intercalate ", " (Sql.Assigned.texts 1 assignments))).map (·.digits) =
      (List.range' 1 (Sql.Assigned.slotsOf assignments).length).map
        fun n => (toString n).toList := by
  have hclosed : Sql.Piece.Closed True
      (Sql.Piece.joined ", " (Sql.Assigned.piecesOf assignments)) :=
    Sql.Piece.Closed.joined Sql.separates_comma (Sql.Assigned.closed_piecesOf h)
  have hdigits := Sql.Piece.digits_marksFrom hclosed.orderly 1
  rw [Sql.Piece.charsOf_joined, Sql.Assigned.charsEach_piecesOf, ← String.toList_intercalate,
    Sql.Piece.slots_joined, Sql.Assigned.slots_piecesOf] at hdigits
  exact hdigits

/-- The deletion of an update renders if what it gives back can be given back. -/
theorem Update.render_asDelete {u : Update} (hne : u.filters ≠ []) {table : Sql.Identifier}
    (htable : Sql.Identifier.ofName u.table = .ok table) {conditions : List Sql.Predicate}
    (hconditions : Sql.Filter.checkAll u.columnTypes u.filters = .ok conditions)
    {names : List String} {columns : Option Sql.Columns}
    (hcolumns : returningColumns names = .ok columns) :
    (u.asDelete names).render = .ok ⟨Sql.joinParts ["DELETE FROM " ++ table.quoted,
      Sql.Predicate.whereClause 1 conditions, Sql.returningClause columns],
      (Sql.Predicate.slotsOf conditions).map (·.value)⟩ := by
  have hfilters : u.filters.isEmpty = false := List.isEmpty_eq_false_iff.mpr hne
  have hstatement : (u.asDelete names).statement = .ok (.delete table conditions columns) := by
    simp only [Delete.statement, asDelete, htable, hconditions, hcolumns, hfilters]
    rfl
  rw [Delete.render, hstatement]
  rfl

/-- **The conditions of an update are those of a deletion, shifted.** A `WHERE` clause that is
numbered from a later number is the clause with the difference added to every placeholder, with the
same values or the same error. So whenever an update renders whose expressions are free of `$`, its
text is that of its assignments, with placeholders from one to the number of values that they bind,
and behind it the condition of the deletion with the same table, filters and types, each placeholder
shifted by that number; and its values are those of the assignments and then those of the
deletion. -/
theorem Update.conditions_shifted :
    (∀ (query : Sql.Query) (first m : Nat), query.whereClause (first + m) =
      (query.whereClause first).map fun r => ⟨Sql.shift m r.text, r.values⟩) ∧
    ∀ (u : Update) (r : Sql.Rendered),
      (∀ sql ∈ (Builder.update u).expressions, '$' ∉ sql.toList) → u.render = .ok r →
      ∃ (table : Sql.Identifier) (set clause tail : String) (values : List Json),
        table.name = u.table ∧
        (Sql.marks set).map (·.digits) =
          (List.range' 1 u.setValues.length).map (fun n => (toString n).toList) ∧
        u.query.whereClause 1 = .ok ⟨clause, values⟩ ∧
        r.text = Sql.joinParts ["UPDATE " ++ table.quoted ++ " SET " ++ set,
          Sql.shift u.setValues.length clause, tail] ∧
        r.values = u.setValues ++ values ∧
        (u.asDelete u.returning).render =
          .ok ⟨Sql.joinParts ["DELETE FROM " ++ table.quoted, clause, tail], values⟩ ∧
        ∀ returning r', (u.asDelete returning).render = .ok r' → ∃ tail',
          r' = ⟨Sql.joinParts ["DELETE FROM " ++ table.quoted, clause, tail'], values⟩ := by
  refine ⟨Sql.Query.whereClause_add, fun u r hexpression h => ?_⟩
  obtain ⟨statement, hstatement, rfl⟩ := map_eq_ok.mp h
  obtain ⟨table, assignments, conditions, returning, htable, _, hne, hassigned, hconditions,
    hreturning, rfl⟩ := Update.statement_cases hstatement
  have hvalues : (Sql.Assigned.slotsOf assignments).map (·.value) = u.setValues :=
    Update.values_assigned hassigned
  have hlength : (Sql.Assigned.slotsOf assignments).length = u.setValues.length := by
    rw [← hvalues, List.length_map]
  have hwhere : u.query.whereClause 1 = .ok ⟨Sql.Predicate.whereClause 1 conditions,
      (Sql.Predicate.slotsOf conditions).map (·.value)⟩ := by
    rw [Sql.Query.whereClause, Sql.Query.predicates, Update.query, hconditions]
    rfl
  have hdelete : ∀ {names columns}, returningColumns names = .ok columns →
      (u.asDelete names).render = .ok ⟨Sql.joinParts ["DELETE FROM " ++ table.quoted,
        Sql.Predicate.whereClause 1 conditions, Sql.returningClause columns],
        (Sql.Predicate.slotsOf conditions).map (·.value)⟩ :=
    fun hcolumns => Update.render_asDelete hne htable hconditions hcolumns
  refine ⟨table, String.intercalate ", " (Sql.Assigned.texts 1 assignments), _,
    Sql.returningClause returning, _, Sql.Identifier.ofName_eq_ok.mp htable, ?_, hwhere, ?_, ?_,
    hdelete hreturning, fun names r' hr' => ?_⟩
  · rw [← hlength]
    refine Update.digits_assigned fun sql hsql => hexpression sql ?_
    rw [← Builder.statement_expressions (b := .update u) hstatement]
    exact hsql
  · rw [← hlength, ← Sql.Predicate.whereClause_add]
    rfl
  · rw [← hvalues, ← List.map_append]
    rfl
  · obtain ⟨statement, hdeletion, _⟩ := map_eq_ok.mp hr'
    obtain ⟨_, _, columns, _, _, _, hcolumns, _⟩ := Delete.statement_cases hdeletion
    have hgiven : returningColumns names = .ok columns := hcolumns
    rw [hdelete hgiven] at hr'
    exact ⟨_, (Except.ok.inj hr').symm⟩

/-- An update that binds two values and writes an expression between them, under a condition that
binds a list. -/
theorem Update.conditions_shifted_list :
    let u : Update :=
      { table := "t", set := [("a", .value (.int 1)), ("b", .expression "now()"),
          ("c", .value (.int 2))]
        filters := [.isIn "d" [.int 3, .int 4]] }
    ∃ r r' clause, u.render = .ok r ∧ (u.asDelete []).render = .ok r' ∧
      r.text = "UPDATE \"t\" SET \"a\" = $1, \"b\" = now(), \"c\" = $2 WHERE \"d\" IN ($3, $4)" ∧
      r.values = [.int 1, .int 2] ++ r'.values ∧ u.query.whereClause 1 = .ok ⟨clause, r'.values⟩ ∧
      clause = "WHERE \"d\" IN ($1, $2)" ∧ Sql.shift 2 clause = "WHERE \"d\" IN ($3, $4)" := by
  intro u
  obtain ⟨r, hrender, htext⟩ : ∃ r, u.render = .ok r ∧ r.text =
      "UPDATE \"t\" SET \"a\" = $1, \"b\" = now(), \"c\" = $2 WHERE \"d\" IN ($3, $4)" := by
    dsimp only [u]
    exact ⟨_, rfl, by decide⟩
  obtain ⟨w, hw, hclause⟩ : ∃ w, u.query.whereClause 1 = .ok w ∧
      w.text = "WHERE \"d\" IN ($1, $2)" := by
    dsimp only [u]
    exact ⟨_, rfl, by decide⟩
  have hexpression : ∀ sql ∈ (Builder.update u).expressions, '$' ∉ sql.toList := by decide
  obtain ⟨_, _, clause, _, values, _, _, hwhere, _, hvalues, hdelete, _⟩ :=
    conditions_shifted.2 u r hexpression hrender
  rw [hw] at hwhere
  cases hwhere
  refine ⟨r, _, clause, hrender, hdelete, htext, hvalues, hw, hclause, ?_⟩
  rw [show clause = _ from hclause]
  decide

end Store

end Rowgate
