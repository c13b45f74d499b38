import Rowgate.Proofs.Operands
import Rowgate.Proofs.Tables
/-
Drafts: statements by the steps that build them.

A draft is a kind of statement, a table and a list of steps. Building it runs the steps, which fails
only where a step takes columns from a model that has none; the builder that results is rendered or
refused. Counting the rows of a selection is a kind of its own, over the steps of a selection.

What a builder holds after its steps is read back from the steps here: the type registered for a
column is the last one given (`Draft.build_type`), and every expression of an update was given by a
step (`Draft.build_expressions`).
-/
set_option autoImplicit false

namespace Rowgate

/-! ## Runs of steps -/

section Run

variable {σ τ ε : Type}

/-- Steps that cannot fail, as steps that may. -/
theorem foldlM_ok (f : σ → τ → σ) (s : σ) (steps : List τ) :
    steps.foldlM (fun s step => (.ok (f s step) : Except ε σ)) s = .ok (steps.foldl f s) := by
  induction steps generalizing s with
  | nil => rfl
  | cons step steps ih => rw [List.foldlM_cons, List.foldl_cons, ← ih]; rfl

/-- **What a run folds in.** If every step folds into what is held what it gives, then a run folds in
what its steps give, one after the other. -/
theorem foldlM_folds {α δ : Type} {f : σ → τ → Except ε σ} {held : σ → α} {g : α → δ → α}
    {given : τ → List δ} {steps : List τ}
    (hstep : ∀ step ∈ steps, ∀ s s', f s step = .ok s' → held s' = (given step).foldl g (held s)) :
    ∀ s s' : σ, steps.foldlM f s = .ok s' → held s' = (steps.flatMap given).foldl g (held s) := by
  induction steps with
  | nil =>
    intro s s' h
    cases h
    rfl
  | cons step steps ih =>
    intro s s' h
    rw [List.foldlM_cons] at h
    obtain ⟨middle, hfirst, hrest⟩ := bind_eq_ok.mp h
    obtain ⟨hhead, htail⟩ := List.forall_mem_cons.mp hstep
    rw [ih htail middle s' hrest, hhead s middle hfirst, List.flatMap_cons, List.foldl_append]

/-- **What a run registers.** If every step registers what `given` says of it, the table after a run
is the table before it with everything inserted that the steps gave, in their order. -/
theorem foldlM_registers {f : σ → τ → Except ε σ} {types : σ → Keyed String}
    {given : τ → Option (String × String)}
    (hstep : ∀ s step s', f s step = .ok s' →
      types s' = (types s).insertAll (given step).toList) :
    ∀ (steps : List τ) (s s' : σ), steps.foldlM f s = .ok s' →
      types s' = (types s).insertAll (steps.filterMap given) := by
  intro steps s s' h
  rw [List.filterMap_eq_flatMap_toList]
  exact foldlM_folds (fun step _ s s' => hstep s step s') s s' h

/-- **What a run brings in.** If a step adds nothing to what is held but what it gives, then neither
does a run. -/
theorem foldlM_subset {α : Type} {f : σ → τ → Except ε σ} {held : σ → List α}
    {given : τ → List α}
    (hstep : ∀ s step s', f s step = .ok s' → held s' ⊆ given step ++ held s) :
    ∀ (steps : List τ) (s s' : σ), steps.foldlM f s = .ok s' →
      held s' ⊆ steps.flatMap given ++ held s := by
  intro steps
  induction steps with
  | nil =>
    intro s s' h
    cases h
    exact List.Subset.refl _
  | cons step steps ih =>
    intro s s' h name hname
    rw [List.foldlM_cons] at h
    obtain ⟨middle, hfirst, hrest⟩ := bind_eq_ok.mp h
    rw [List.flatMap_cons]
    -- what is held at the end was given later, or was held after the first step
    rcases List.mem_append.mp (ih middle s' hrest hname) with hlater | hmiddle
    · exact List.mem_append_left _ (List.mem_append_right _ hlater)
    · rcases List.mem_append.mp (hstep s step middle hfirst hmiddle) with hgiven | hbefore
      · exact List.mem_append_left _ (List.mem_append_left _ hgiven)
      · exact List.mem_append_right _ hbefore

end Run

namespace Store

/-! ## Drafts and builders -/

/-- A statement as it is asked for: its kind, its table and the steps that build it. -/
inductive Draft where
  | select (table : String) (steps : List Select.Step)
  | count (table : String) (steps : List Select.Step)
  | insert (table : String) (steps : List Insert.Step)
  | update (table : String) (steps : List Update.Step)
  | delete (table : String) (steps : List Delete.Step)

/-- A statement under construction, of any kind. -/
inductive Builder where
  | select (s : Select)
  | count (s : Select)
  | insert (i : Insert)
  | update (u : Update)
  | delete (d : Delete)

namespace Builder

/-- The checked statement. -/
def statement : Builder → Except StoreError Sql.Statement
  | .select s => s.statement
  | .count s => s.countStatement
  | .insert i => i.statement
  | .update u => u.statement
  | .delete d => d.statement

/-- The text and the values. -/
def render : Builder → Except StoreError Sql.Rendered
  | .select s => s.render
  | .count s => s.renderCount
  | .insert i => i.render
  | .update u => u.render
  | .delete d => d.render

theorem render_eq (b : Builder) : b.render = b.statement.map (·.render) := by cases b <;> rfl

/-- The types registered for columns. -/
def columnTypes : Builder → Keyed String
  | .select s => s.query.columnTypes
  | .count s => s.query.columnTypes
  | .insert i => i.columnTypes
  | .update u => u.columnTypes
  | .delete d => d.columnTypes

/-- The filters of the `WHERE` clause. -/
def filters : Builder → List Sql.Filter
  | .select s => s.query.filters
  | .count s => s.query.filters
  | .insert _ => []
  | .update u => u.filters
  | .delete d => d.filters

/-- What is bound for a column that is set: an expression binds nothing. -/
def assigned : String × NewValue → List Sql.Operand
  | (column, .value v) => [⟨column, v⟩]
  | (_, .expression _) => []

/-- The values that a builder binds, each with the column it is for: those that columns are given,
in the order of the columns, then those that filters compare with, from left to right. -/
def operands : Builder → List Sql.Operand
  | .select s => Sql.Filter.operandsOf s.query.filters
  | .count s => Sql.Filter.operandsOf s.query.filters
  | .insert i => i.values.map fun (column, v) => ⟨column, v⟩
  | .update u => u.set.flatMap assigned ++ Sql.Filter.operandsOf u.filters
  | .delete d => Sql.Filter.operandsOf d.filters

/-- The expressions that stand in the text as they are. -/
def expressions : Builder → List String
  | .update u => u.set.filterMap fun
    | (_, .expression sql) => some sql
    | (_, .value _) => none
  | _ => []

end Builder

namespace Draft

/-- The builder after the steps, if none of them fails. -/
def build : Draft → Except StoreError Builder
  | .select table steps => .ok (.select (Select.run { table } steps))
  | .count table steps => .ok (.count (Select.run { table } steps))
  | .insert table steps => (Insert.run { table } steps).map .insert
  | .update table steps => (Update.run { table } steps).map .update
  | .delete table steps => .ok (.delete (Delete.run { table } steps))

end Draft

/-! ## What steps give -/

/-- The column and the type that a step registers. -/
def Select.Step.given : Select.Step → Option (String × String)
  | .columnType column type => some (column, type)
  | _ => none

/-- The column and the type that a step registers. -/
def Insert.Step.given : Insert.Step → Option (String × String)
  | .columnType column type => some (column, type)
  | _ => none

/-- The column and the type that a step registers. -/
def Update.Step.given : Update.Step → Option (String × String)
  | .columnType column type => some (column, type)
  | _ => none

/-- The column and the type that a step registers. -/
def Delete.Step.given : Delete.Step → Option (String × String)
  | .columnType column type => some (column, type)
  | _ => none

/-- The expression that a step gives a column. -/
def Update.Step.expression : Update.Step → Option String
  | .setExpression _ sql => some sql
  | _ => none

namespace Draft

/-- The columns and types that the steps register, in their order. -/
def given : Draft → List (String × String)
  | .select _ steps => steps.filterMap Select.Step.given
  | .count _ steps => steps.filterMap Select.Step.given
  | .insert _ steps => steps.filterMap Insert.Step.given
  | .update _ steps => steps.filterMap Update.Step.given
  | .delete _ steps => steps.filterMap Delete.Step.given

/-- The type that the steps registered last for a column. -/
def typeOf (d : Draft) (column : String) : Option String := Keyed.lastGiven column d.given

/-- The expressions that the steps give. -/
def expressions : Draft → List String
  | .update _ steps => steps.filterMap Update.Step.expression
  | _ => []

end Draft

/-! ## What a builder holds after its steps -/

theorem Select.run_columnTypes (s : Select) (steps : List Select.Step) :
    (s.run steps).query.columnTypes =
      s.query.columnTypes.insertAll (steps.filterMap Select.Step.given) := by
  have hstep : ∀ (s : Select) (step : Select.Step) (s' : Select),
      (.ok (s.apply step) : Except Unit Select) = .ok s' →
      s'.query.columnTypes = s.query.columnTypes.insertAll step.given.toList := by
    intro s step s' h
    cases h
    cases step <;> rfl
  exact foldlM_registers hstep steps s _ (foldlM_ok Select.apply s steps)

theorem Delete.run_columnTypes (d : Delete) (steps : List Delete.Step) :
    (d.run steps).columnTypes = d.columnTypes.insertAll (steps.filterMap Delete.Step.given) := by
  have hstep : ∀ (d : Delete) (step : Delete.Step) (d' : Delete),
      (.ok (d.apply step) : Except Unit Delete) = .ok d' →
      d'.columnTypes = d.columnTypes.insertAll step.given.toList := by
    intro d step d' h
    cases h
    cases step <;> rfl
  exact foldlM_registers hstep steps d _ (foldlM_ok Delete.apply d steps)

theorem Insert.run_columnTypes {i i' : Insert} {steps : List Insert.Step}
    (h : i.run steps = .ok i') :
    i'.columnTypes = i.columnTypes.insertAll (steps.filterMap Insert.Step.given) := by
  refine foldlM_registers ?_ steps i i' h
  intro i step i' h
  cases step with
  | valuesFrom model =>
    obtain ⟨columns, _, h⟩ := bind_eq_ok.mp h
    cases h
    rfl
  | _ => cases h; rfl

theorem Update.run_columnTypes {u u' : Update} {steps : List Update.Step}
    (h : u.run steps = .ok u') :
    u'.columnTypes = u.columnTypes.insertAll (steps.filterMap Update.Step.given) := by
  refine foldlM_registers ?_ steps u u' h
  intro u step u' h
  cases step with
  | setFrom model =>
    obtain ⟨columns, _, h⟩ := bind_eq_ok.mp h
    cases h
    rfl
  | _ => cases h; rfl

/-- **Types are read back from the steps**: a builder holds for each column the type that was
registered for it last. -/
theorem Draft.build_type {d : Draft} {b : Builder} (h : d.build = .ok b) (column : String) :
    Keyed.get? column b.columnTypes = d.typeOf column := by
  have hread : b.columnTypes = Keyed.insertAll [] d.given := by
    cases d with
    | select table steps => cases h; exact Select.run_columnTypes _ steps
    | count table steps => cases h; exact Select.run_columnTypes _ steps
    | insert table steps =>
      obtain ⟨i, hi, rfl⟩ := map_eq_ok.mp h
      exact Insert.run_columnTypes hi
    | update table steps =>
      obtain ⟨u, hu, rfl⟩ := map_eq_ok.mp h
      exact Update.run_columnTypes hu
    | delete table steps => cases h; exact Delete.run_columnTypes _ steps
  rw [hread, Keyed.get?_insertAll, Draft.typeOf]
  exact Option.or_none

/-! ## What a statement binds -/

/-- The slots of an insertion hold the values that its columns are given. -/
theorem Insert.slots_operands {types : Keyed String} {given : Assignments Json}
    {values : List (Sql.Identifier × Sql.Slot)} (h : Insert.slots types given = .ok values) :
    List.Forall₂ (Sql.Operand.Fits types)
      (given.map fun (column, v) => ⟨column, v⟩) values := by
  rw [List.forall₂_map_left_iff]
  refine (mapM_eq_ok h).imp ?_
  rintro ⟨column, v⟩ bound hone
  obtain ⟨identifier, hname, hone⟩ := bind_eq_ok.mp hone
  obtain ⟨cast, hcast, hone⟩ := bind_eq_ok.mp hone
  cases hone
  exact ⟨Sql.Identifier.ofName_eq_ok.mp hname, rfl, Sql.castOf_eq_ok.mp hcast⟩

/-- The assignments of an update bind the values that columns are set to. -/
theorem Update.assigned_operands {types : Keyed String} {set : Assignments NewValue}
    {assignments : List (Sql.Identifier × Sql.Assigned)}
    (h : Update.assigned types set = .ok assignments) :
    List.Forall₂ (Sql.Operand.Fits types) (set.flatMap Builder.assigned)
      ((Sql.Assigned.piecesOf assignments).flatMap Sql.Piece.bound) := by
  rw [Sql.Assigned.bound_piecesOf]
  -- an expression has no slot, so both sides skip it
  refine List.rel_flatMap (mapM_eq_ok h) ?_
  rintro ⟨column, value⟩ a hone
  obtain ⟨identifier, hname, hone⟩ := bind_eq_ok.mp hone
  cases value with
  | value v =>
    obtain ⟨cast, hcast, hone⟩ := bind_eq_ok.mp hone
    cases hone
    exact .cons ⟨Sql.Identifier.ofName_eq_ok.mp hname, rfl, Sql.castOf_eq_ok.mp hcast⟩ .nil
  | expression sql =>
    cases hone
    exact .nil

/-- **The slots of a statement are the builder's operands**, one for one, in the order of the
text. -/
theorem Builder.statement_operands {b : Builder} {s : Sql.Statement} (h : b.statement = .ok s) :
    List.Forall₂ (Sql.Operand.Fits b.columnTypes) b.operands (Sql.Piece.bound s.pieces) := by
  have hreturning : ∀ columns, Sql.Piece.bound (Sql.returningPieces columns) = [] :=
    fun columns => Sql.Piece.bound_eq_nil (Sql.slots_returningPieces columns)
  cases b with
  | select q =>
    obtain ⟨table, columns, conditions, order, _, _, hconditions, _, rfl⟩ :=
      Select.statement_cases h
    simp only [Sql.Statement.pieces, Sql.Piece.bound, Sql.Piece.bound_append,
      Sql.Piece.bound_spaced, Sql.Piece.bound_eq_nil columns.slots_pieces,
      Sql.Piece.bound_eq_nil (Sql.SortTerm.slots_clausePieces order),
      Sql.Piece.bound_eq_nil (Sql.Page.slots_pieces _), List.nil_append, List.append_nil]
    exact Sql.Filter.checkAll_operands hconditions
  | count q =>
    obtain ⟨table, conditions, _, hconditions, rfl⟩ := Select.countStatement_cases h
    simp only [Sql.Statement.pieces, Sql.Piece.bound, Sql.Piece.bound_spaced]
    exact Sql.Filter.checkAll_operands hconditions
  | insert i =>
    obtain ⟨table, returning, values, _, _, hvalues, rfl⟩ := Insert.statement_cases h
    have hoperands := Insert.slots_operands hvalues
    cases values with
    | nil =>
      simp only [Sql.Statement.pieces, Sql.Piece.bound, Sql.Piece.bound_spaced, hreturning]
      exact hoperands
    | cons value rest =>
      simp only [Sql.Statement.pieces, Sql.Piece.bound, Sql.Piece.bound_append,
        Sql.Piece.bound_spaced, Sql.Piece.bound_placeholders,
        Sql.Piece.bound_eq_nil (Sql.Identifier.slots_listPieces _), hreturning, List.nil_append,
        List.append_nil]
      exact hoperands
  | update u =>
    obtain ⟨table, assignments, conditions, returning, _, _, _, hassigned, hconditions, _, rfl⟩ :=
      Update.statement_cases h
    simp only [Sql.Statement.pieces, Sql.Piece.bound, Sql.Piece.bound_append,
      Sql.Piece.bound_spaced, Sql.Piece.bound_joined, hreturning, List.append_nil]
    exact List.rel_append (Update.assigned_operands hassigned)
      (Sql.Filter.checkAll_operands hconditions)
  | delete d =>
    obtain ⟨table, conditions, returning, _, _, hconditions, _, rfl⟩ := Delete.statement_cases h
    simp only [Sql.Statement.pieces, Sql.Piece.bound, Sql.Piece.bound_append,
      Sql.Piece.bound_spaced, hreturning, List.append_nil]
    exact Sql.Filter.checkAll_operands hconditions

/-! ## Expressions come from steps -/

section Assign

variable {α : Type}

theorem Assignments.mem_assign {column : String} {value : α} {a : Assignments α}
    {p : String × α} (h : p ∈ a.assign column value) : p = (column, value) ∨ p ∈ a := by
  induction a with
  | nil =>
    rw [Assignments.assign, List.mem_singleton] at h
    exact .inl h
  | cons first rest ih =>
    obtain ⟨c, v⟩ := first
    rw [Assignments.assign] at h
    split at h
    · rename_i hc
      rcases List.mem_cons.mp h with h | h
      · exact .inl (by rw [h, hc])
      · exact .inr (List.mem_cons_of_mem _ h)
    · rcases List.mem_cons.mp h with h | h
      · exact .inr (by rw [h]; exact List.mem_cons_self)
      · rcases ih h with h | h
        · exact .inl h
        · exact .inr (List.mem_cons_of_mem _ h)

theorem Assignments.mem_assignAll {pairs : List (String × α)} {a : Assignments α}
    {p : String × α} (h : p ∈ a.assignAll pairs) : p ∈ pairs ∨ p ∈ a := by
  induction pairs generalizing a with
  | nil => exact .inr h
  | cons first rest ih =>
    rcases ih h with h | h
    · exact .inl (List.mem_cons_of_mem _ h)
    · rcases mem_assign h with h | h
      · exact .inl (by rw [h]; exact List.mem_cons_self)
      · exact .inr h

end Assign

/-- A step brings no expression into an update but the one it gives. -/
theorem Update.apply_expression {u u' : Update} {step : Update.Step} (h : u.apply step = .ok u')
    {column sql : String} (hmem : (column, .expression sql) ∈ u'.set) :
    step.expression = some sql ∨ (column, .expression sql) ∈ u.set := by
  cases step with
  | set c value =>
    cases h
    rcases Assignments.mem_assign hmem with hmem | hmem
    · cases hmem
    · exact .inr hmem
  | setExpression c given =>
    cases h
    rcases Assignments.mem_assign hmem with hmem | hmem
    · cases hmem; exact .inl rfl
    · exact .inr hmem
  | setFrom model =>
    obtain ⟨columns, _, h⟩ := bind_eq_ok.mp h
    cases h
    rcases Assignments.mem_assignAll hmem with hmem | hmem
    · obtain ⟨_, _, hp⟩ := List.mem_map.mp hmem
      cases hp
    · exact .inr hmem
  | remove c => cases h; exact .inr (List.mem_of_mem_filter hmem)
  | filter f => cases h; exact .inr hmem
  | columnType c type => cases h; exact .inr hmem
  | returning names => cases h; exact .inr hmem

theorem Update.run_expressions {u u' : Update} {steps : List Update.Step}
    (h : u.run steps = .ok u') :
    (Builder.update u').expressions ⊆
      steps.filterMap Update.Step.expression ++ (Builder.update u).expressions := by
  have hstep : ∀ (u : Update) (step : Update.Step) (u' : Update), u.apply step = .ok u' →
      (Builder.update u').expressions ⊆
        step.expression.toList ++ (Builder.update u).expressions := by
    intro u step u' happly sql hmem
    obtain ⟨⟨column, value⟩, hset, hvalue⟩ := List.mem_filterMap.mp hmem
    cases value with
    | value v => cases hvalue
    | expression given =>
      cases hvalue
      rcases apply_expression happly hset with hgiven | hbefore
      · exact List.mem_append_left _ (Option.mem_toList.mpr hgiven)
      · exact List.mem_append_right _ (List.mem_filterMap.mpr ⟨_, hbefore, rfl⟩)
  rw [List.filterMap_eq_flatMap_toList]
  exact foldlM_subset hstep steps u u' h

/-- **Every expression of a builder was given by a step.** -/
theorem Draft.build_expressions {d : Draft} {b : Builder} (h : d.build = .ok b) :
    ∀ sql ∈ b.expressions, sql ∈ d.expressions := by
  intro sql hmem
  cases d with
  | select table steps => cases h; cases hmem
  | count table steps => cases h; cases hmem
  | delete table steps => cases h; cases hmem
  | insert table steps =>
    obtain ⟨i, _, rfl⟩ := map_eq_ok.mp h
    cases hmem
  | update table steps =>
    obtain ⟨u, hu, rfl⟩ := map_eq_ok.mp h
    rcases List.mem_append.mp (Update.run_expressions hu hmem) with hgiven | hstart
    · exact hgiven
    · cases hstart

end Store

end Rowgate
