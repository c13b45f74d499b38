import Rowgate.Proofs.Quoting
/-
Which filters have no clause, and what is wrong with them.

Checking goes through a tree of filters from left to right and stops at the first condition that
offends. A condition offends by its column, whatever it asks; and by the type of its column, but only
if it binds a value, which depends on the operator, on the operand being a list, and on the list
being empty. `Filter.refusal_checkAll` says that what a check reports is the first offence among the
conditions, read off the tree in the order in which `Filter.fields` reads it.

The names of the columns and the names between the quotes of a clause are then the same list, but for
the conditions that hold for every row or for none: these are written as a constant, and their
columns are checked all the same.
-/
set_option autoImplicit false

namespace Rowgate

/-! ## Errors of steps that may fail -/

section Refusal

variable {ε α β γ : Type}

/-- The error of a step, if it fails. -/
def refusal : Except ε α → Option ε
  | .ok _ => none
  | .error e => some e

theorem refusal_eq_some_iff {x : Except ε α} {e : ε} : refusal x = some e ↔ x = .error e := by
  cases x <;> simp [refusal]

theorem refusal_eq_none_iff {x : Except ε α} : refusal x = none ↔ ∃ a, x = .ok a := by
  cases x <;> simp [refusal]

/-- Of two steps one behind the other the first error is reported. -/
theorem refusal_pair (x : Except ε α) (y : Except ε β) (f : α → β → γ) :
    refusal (do let a ← x; let b ← y; return f a b) = (refusal x).or (refusal y) := by
  cases x with
  | error e => rfl
  | ok a => cases y <;> rfl

end Refusal

namespace Sql

/-! ## Conditions -/

mutual

/-- The conditions of a filter, from left to right. -/
def Filter.conditions : Filter → List Condition
  | .condition c => [c]
  | .group _ filters => conditionsOf filters

/-- The conditions of a list of filters. -/
def Filter.conditionsOf : List Filter → List Condition
  | [] => []
  | f :: rest => conditions f ++ conditionsOf rest

end

mutual

/-- The fields of a filter are the columns of its conditions. -/
theorem Filter.fields_eq : ∀ f : Filter, f.fields = f.conditions.map (·.field)
  | .condition _ => rfl
  | .group _ filters => fieldsOf_eq filters

theorem Filter.fieldsOf_eq : ∀ fs : List Filter, fieldsOf fs = (conditionsOf fs).map (·.field)
  | [] => rfl
  | f :: fs => by
    rw [fieldsOf, conditionsOf, List.map_append, fields_eq f, fieldsOf_eq fs]

end

namespace Condition

/-- Whether a condition binds a value. -/
def Binds (c : Condition) : Prop := c.question.values ≠ []

/-- Whether a condition is written as a constant. -/
def isConstant (c : Condition) : Bool :=
  match c.question with
  | .constant _ => true
  | _ => false

/-- A condition that may stand in a clause: its column is a name, and if it binds a value the type of
the column can be cast to. -/
structure Sound (types : Keyed String) (c : Condition) : Prop where
  field : Identifier.rejection? c.field = none
  type : c.Binds → ∀ type, Keyed.get? c.field types = some type → ColumnType.isUsable type = true

/-- What is wrong with a condition. Its column comes before the type of the column. -/
inductive Offends (types : Keyed String) (c : Condition) : NameError → Prop where
  | field {e : NameError} (h : Identifier.rejection? c.field = some e) : Offends types c e
  | type {type : String} (hfield : Identifier.rejection? c.field = none) (hbinds : c.Binds)
      (hget : Keyed.get? c.field types = some type) (h : ColumnType.isUsable type = false) :
      Offends types c (.badType type)

end Condition

/-! ## What a check reports -/

/-- A question fails by the type of its column alone, and only if it binds a value. -/
theorem Question.check_eq_error {types : Keyed String} {column : Identifier} {q : Question}
    {e : NameError} :
    q.check types column = .error e ↔ q.values ≠ [] ∧ castOf types column.name = .error e := by
  cases q with
  | nullity isNull => simp [check, values]
  | constant holds => simp [check, values]
  | compare comparison value => simp [check, values, bind_eq_error, pure, Except.pure]
  | membership isIn value values =>
    simp [check, Question.values, bind_eq_error, pure, Except.pure]

namespace Condition

/-- **What is wrong with a condition.** -/
theorem check_eq_error {types : Keyed String} {c : Condition} {e : NameError} :
    c.check types = .error e ↔ c.Offends types e := by
  rw [check_eq, bind_eq_error, Identifier.ofName_eq_error]
  constructor
  · rintro (hfield | ⟨column, hcolumn, hquestion⟩)
    · exact .field hfield
    · obtain ⟨hbinds, hcast⟩ := Question.check_eq_error.mp hquestion
      have hname : column.name = c.field := Identifier.ofName_eq_ok.mp hcolumn
      rw [hname] at hcast
      obtain ⟨type, hget, husable, rfl⟩ := castOf_eq_error.mp hcast
      exact .type (hname ▸ column.accepted) hbinds hget husable
  · rintro (hfield | ⟨hfield, hbinds, hget, husable⟩)
    · exact .inl hfield
    · -- the column is a name, so the question is asked
      refine .inr ⟨⟨c.field, hfield⟩, Identifier.ofName_eq_ok.mpr rfl, ?_⟩
      exact Question.check_eq_error.mpr ⟨hbinds, castOf_eq_error.mpr ⟨_, hget, husable, rfl⟩⟩

/-- A condition that does not offend may stand in a clause. -/
theorem sound_iff {types : Keyed String} {c : Condition} :
    c.Sound types ↔ ∀ e, ¬c.Offends types e := by
  constructor
  · rintro ⟨hfield, htype⟩ e (hrejected | ⟨_, hbinds, hget, husable⟩)
    · rw [hfield] at hrejected
      cases hrejected
    · rw [htype hbinds _ hget] at husable
      cases husable
  · intro h
    have hfield : Identifier.rejection? c.field = none := by
      cases hfield : Identifier.rejection? c.field with
      | none => rfl
      | some e => exact absurd (.field hfield) (h e)
    refine ⟨hfield, fun hbinds type hget => ?_⟩
    by_contra husable
    exact h _ (.type hfield hbinds hget (by simpa using husable))

theorem refusal_check_eq_none {types : Keyed String} {c : Condition} :
    refusal (c.check types) = none ↔ c.Sound types := by
  rw [sound_iff, Option.eq_none_iff_forall_ne_some]
  exact forall_congr' fun e => not_congr (refusal_eq_some_iff.trans check_eq_error)

end Condition

mutual

/-- A filter is refused for the first of its conditions that is. -/
theorem Filter.refusal_check (types : Keyed String) : ∀ f : Filter,
    refusal (f.check types) = f.conditions.findSome? fun c => refusal (c.check types)
  | .condition c => by simp [check, conditions]
  | .group .and [] => rfl
  | .group .or [] => rfl
  | .group j (f :: fs) => by
    rw [check_group, refusal_pair, refusal_check types f, refusal_checkAll types fs, conditions,
      conditionsOf, List.findSome?_append]

/-- **Filters are refused for the first of their conditions that is.** -/
theorem Filter.refusal_checkAll (types : Keyed String) : ∀ fs : List Filter,
    refusal (checkAll types fs) = (conditionsOf fs).findSome? fun c => refusal (c.check types)
  | [] => rfl
  | f :: fs => by
    rw [checkAll, refusal_pair, refusal_check types f, refusal_checkAll types fs, conditionsOf,
      List.findSome?_append]

end

/-! ## Names in the text -/

namespace Piece

theorem names_append (a b : List Piece) : names (a ++ b) = names a ++ names b := by
  induction a with
  | nil => rfl
  | cons p rest ih => cases p <;> simp only [List.cons_append, names, ih]

theorem names_joined (separator : String) (parts : List (List Piece)) :
    names (joined separator parts) = parts.flatMap names :=
  gather_joined rfl (fun _ => rfl) names_append parts

theorem names_placeholders (operands : List (Identifier × Slot)) :
    names (placeholders operands) = [] := by
  rw [placeholders, names_joined, List.flatMap_map]
  exact List.flatMap_eq_nil_iff.mpr fun _ _ => rfl

end Piece

/-- The columns that a clause names: those of its conditions, but for constants. -/
def Filter.named (conditions : List Condition) : List String :=
  (conditions.filter fun c => !c.isConstant).map (·.field)

theorem Filter.named_append (a b : List Condition) : named (a ++ b) = named a ++ named b := by
  rw [named, List.filter_append, List.map_append, ← named, ← named]

/-- **The names of a clause are the columns of its conditions**, but for constants. -/
theorem Filter.names_wherePieces {types : Keyed String} {fs : List Filter} {ps : List Predicate}
    (h : checkAll types fs = .ok ps) :
    (Piece.names (Predicate.wherePieces ps)).map (·.name) = named (conditionsOf fs) := by
  have hmembers : ∀ (first last joiner : String) (ps : List Predicate),
      Piece.names (.fixed first :: (Piece.joined joiner (Predicate.piecesOf ps) ++ [.fixed last])) =
        (Predicate.piecesOf ps).flatMap Piece.names := by
    intro first last joiner ps
    simp only [Piece.names, Piece.names_append, Piece.names_joined, List.append_nil]
  have inv : CheckInvariant types
      (fun f p => (Piece.names p.pieces).map (·.name) = named f.conditions)
      (fun fs ps => ((Predicate.piecesOf ps).flatMap Piece.names).map (·.name) =
        named (conditionsOf fs)) :=
    { condition := by
        intro c column p hcolumn hp
        rw [conditions, named]
        obtain ⟨isNull, hq, rfl⟩ | ⟨holds, hq, rfl⟩ | ⟨comparison, value, cast, hq, _, rfl⟩ |
          ⟨isIn, value, values, cast, hq, _, rfl⟩ := Question.check_cases hp
        · cases isNull <;>
            simp [Predicate.pieces, Piece.names, Condition.isConstant, hq, hcolumn]
        · cases holds <;> simp [Predicate.pieces, Piece.names, Condition.isConstant, hq]
        · simp [Predicate.pieces, Piece.names, Condition.isConstant, hq, hcolumn]
        · simp [Predicate.pieces, Piece.names, Piece.names_append, Piece.names_placeholders,
            Condition.isConstant, hq, hcolumn]
      all := rfl
      any := rfl
      group := by
        intro j f fs p ps hgroup
        rw [Predicate.pieces, hmembers]
        exact hgroup
      nil := rfl
      cons := by
        intro f fs p ps hf hfs
        rw [Predicate.piecesOf, List.flatMap_cons, List.map_append, hf, hfs, conditionsOf,
          named_append] }
  have hall := inv.checkAll fs ps h
  cases ps with
  | nil => exact hall
  | cons p rest =>
    rw [Predicate.wherePieces, if_neg (by simp), Piece.names, Piece.names_joined]
    exact hall

/-! ## Main result -/

theorem Query.refusal_whereClause (query : Query) (first : Nat) :
    refusal (query.whereClause first) =
      (Filter.conditionsOf query.filters).findSome? fun c =>
        refusal (c.check query.columnTypes) := by
  rw [← Filter.refusal_checkAll, whereClause, predicates]
  cases Filter.checkAll query.columnTypes query.filters <;> rfl

/-- **When filters have a clause.** The `WHERE` clause of a query is written if and only if every
field of its filters is accepted as a name and every condition that binds a value has a column whose
type, if one is registered, can be cast to. Otherwise the error is what is wrong with the first
condition that offends, from left to right in the trees, by its column or, the column being accepted,
by the type of it. And the names between the quotes of a clause are, in order, the fields of the
filters without those of conditions that are written as a constant. -/
theorem Query.whereClause_outcome (query : Query) (first : Nat) :
    let conditions := Filter.conditionsOf query.filters
    Filter.fieldsOf query.filters = conditions.map (·.field) ∧
    ((∃ r, query.whereClause first = .ok r) ↔
      (∀ field ∈ Filter.fieldsOf query.filters, Identifier.rejection? field = none) ∧
      ∀ c ∈ conditions, c.Binds → ∀ type, Keyed.get? c.field query.columnTypes = some type →
        ColumnType.isUsable type = true) ∧
    (∀ e, query.whereClause first = .error e ↔ ∃ earlier c later,
      conditions = earlier ++ c :: later ∧ (∀ c' ∈ earlier, c'.Sound query.columnTypes) ∧
      c.Offends query.columnTypes e) ∧
    ∀ r, query.whereClause first = .ok r → quotedNames r.text = Filter.named conditions := by
  intro conditions
  have hfields := Filter.fieldsOf_eq query.filters
  refine ⟨hfields, ?_, fun e => ?_, fun r hr => ?_⟩
  · rw [← refusal_eq_none_iff, refusal_whereClause, List.findSome?_eq_none_iff, hfields,
      List.forall_mem_map]
    constructor
    · intro h
      have hsound := fun c hc => Condition.refusal_check_eq_none.mp (h c hc)
      exact ⟨fun c hc => (hsound c hc).field, fun c hc => (hsound c hc).type⟩
    · intro h c hc
      exact Condition.refusal_check_eq_none.mpr ⟨h.1 c hc, h.2 c hc⟩
  · rw [← refusal_eq_some_iff, refusal_whereClause, List.findSome?_eq_some_iff]
    constructor
    · rintro ⟨earlier, c, later, hsplit, hc, hearlier⟩
      refine ⟨earlier, c, later, hsplit, fun c' hc' => ?_, ?_⟩
      · exact Condition.refusal_check_eq_none.mp (hearlier c' hc')
      · exact Condition.check_eq_error.mp (refusal_eq_some_iff.mp hc)
    · rintro ⟨earlier, c, later, hsplit, hearlier, hc⟩
      refine ⟨earlier, c, later, hsplit, ?_, fun c' hc' => ?_⟩
      · exact refusal_eq_some_iff.mpr (Condition.check_eq_error.mpr hc)
      · exact Condition.refusal_check_eq_none.mpr (hearlier c' hc')
  · obtain ⟨parts, hparts, hr⟩ := bind_eq_ok.mp hr
    cases hr
    have hwithin := Filter.allWithin_wherePieces hparts (List.Subset.refl _)
    have hquoted := (hwithin.quotedFrom_charsOf first).1
    rw [Predicate.charsOf_wherePieces] at hquoted
    rw [quotedNames, hquoted, Filter.names_wherePieces hparts]

/-- A type that no value is cast to and a column without a value stand in front of the first offence,
and a column that is no name behind it. -/
theorem Query.whereClause_outcome_mixed :
    let query : Query :=
      { filters := [.or [.isIn "a" [], .isNull "b", .isIn "b" [.int 1]], .isNull "no name"]
        columnTypes := [("a", "1"), ("b", "2")] }
    query.whereClause 1 = .error (.badType "2") ∧
      ∃ earlier c later, Filter.conditionsOf query.filters = earlier ++ c :: later ∧
        (∀ c' ∈ earlier, c'.Sound query.columnTypes) ∧
        c.Offends query.columnTypes (.badType "2") := by
  intro query
  have herror : query.whereClause 1 = .error (.badType "2") := rfl
  obtain ⟨_, _, hfirst, _⟩ := query.whereClause_outcome 1
  exact ⟨herror, (hfirst _).mp herror⟩

end Sql

end Rowgate
