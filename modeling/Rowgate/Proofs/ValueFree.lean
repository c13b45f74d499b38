import Rowgate.Proofs.Mask
/-
Texts are free of values: masking a whole draft.

A step of a builder commutes with masking, and so does a run of steps. A model that columns are taken
from keeps its keys, and of its members whether they are null, because null members are left out. A
model that is no object is refused with its text in the error, so masking keeps it as it is.

The statement about two runs follows: drafts that masking makes equal are rendered alike.
`Sql.Condition.mask_eq_iff` says what such drafts may differ in, condition by condition.
-/
set_option autoImplicit false

namespace Rowgate.Store

/-! ## Runs of steps -/

section Run

variable {σ τ ε : Type} {g : σ → σ} {g' : τ → τ}

theorem foldlM_map_eq {f : σ → τ → Except ε σ}
    (h : ∀ s step, f (g s) (g' step) = (f s step).map g) (s : σ) (steps : List τ) :
    (steps.map g').foldlM f (g s) = (steps.foldlM f s).map g := by
  induction steps generalizing s with
  | nil => rfl
  | cons step steps ih =>
    rw [List.map_cons, List.foldlM_cons, List.foldlM_cons, h, map_bind_eq, bind_map_eq]
    exact congrArg _ (funext ih)

theorem foldl_map_eq {f : σ → τ → σ} (h : ∀ s step, f (g s) (g' step) = g (f s step)) (s : σ)
    (steps : List τ) : (steps.map g').foldl f (g s) = g (steps.foldl f s) := by
  induction steps generalizing s with
  | nil => rfl
  | cons step steps ih => rw [List.map_cons, List.foldl_cons, List.foldl_cons, h, ih]

end Run

/-! ## Assignments and models -/

section Assign

variable {α β : Type}

theorem Assignments.assign_map (g : α → β) (column : String) (value : α) (a : Assignments α) :
    assign column (g value) (a.map fun p => (p.1, g p.2)) =
      (assign column value a).map fun p => (p.1, g p.2) := by
  induction a with
  | nil => rfl
  | cons p rest ih =>
    obtain ⟨c, v⟩ := p
    by_cases h : c = column
    · simp only [List.map_cons, assign, if_pos h]
    · simp only [List.map_cons, assign, if_neg h, ih]

theorem Assignments.assignAll_map (g : α → β) (pairs : List (String × α)) (a : Assignments α) :
    assignAll (pairs.map fun p => (p.1, g p.2)) (a.map fun p => (p.1, g p.2)) =
      (assignAll pairs a).map fun p => (p.1, g p.2) := by
  induction pairs generalizing a with
  | nil => rfl
  | cons p rest ih =>
    have hone := assign_map g p.1 p.2 a
    rw [List.map_cons, assignAll, List.foldl_cons, hone]
    exact ih (assign p.1 p.2 a)

end Assign

/-- The member of a model: null stays null. -/
def Model.maskMember (member : String × Json) : String × Json :=
  (member.1, if member.2.isNull then member.2 else .masked)

/-- An object keeps its keys and which of its members are null. Anything else is kept. -/
def Model.mask : Model → Model
  | .ok (.object members) => .ok (.object (members.map maskMember))
  | m => m

theorem Model.columns_mask (table : String) (m : Model) :
    m.mask.columns table = (m.columns table).map (List.map fun p => (p.1, .masked)) := by
  have hmembers : ∀ members : List (String × Json),
      (members.map maskMember).filter (fun p => !p.2.isNull) =
        (members.filter fun p => !p.2.isNull).map fun p => (p.1, .masked) := by
    intro members
    induction members with
    | nil => rfl
    | cons p rest ih =>
      obtain ⟨key, value⟩ := p
      cases hnull : value.isNull with
      | true => simp [maskMember, hnull, ih]
      | false =>
        -- a member with a value keeps its column, whatever stands for the value
        have hmasked : Json.masked.isNull = false := rfl
        simp [maskMember, hnull, hmasked, ih]
  cases m with
  | error text => rfl
  | ok value =>
    cases value with
    | object members => exact congrArg Except.ok (hmembers members)
    | _ => rfl

/-! ## Builders -/

def NewValue.mask : NewValue → NewValue
  | .value _ => .value .masked
  | .expression sql => .expression sql

def Select.mask (s : Select) : Select :=
  { s with query := { s.query with filters := Sql.Filter.maskAll s.query.filters } }

def Insert.mask (i : Insert) : Insert :=
  { i with values := i.values.map fun p => (p.1, .masked) }

def Update.mask (u : Update) : Update :=
  { u with set := u.set.map fun p => (p.1, p.2.mask), filters := Sql.Filter.maskAll u.filters }

def Delete.mask (d : Delete) : Delete := { d with filters := Sql.Filter.maskAll d.filters }

def Builder.mask : Builder → Builder
  | .select s => .select s.mask
  | .count s => .count s.mask
  | .insert i => .insert i.mask
  | .update u => .update u.mask
  | .delete d => .delete d.mask

theorem checked_map {α β : Type} (x : Except Sql.NameError α) (g : α → β) :
    checked (x.map g) = (checked x).map g := by
  cases x <;> rfl

theorem Select.statement_mask (s : Select) :
    s.mask.statement = s.statement.map Sql.Statement.mask := by
  have hconditions : s.mask.query.predicates = s.query.predicates.map Sql.Predicate.maskAll :=
    Sql.Filter.checkAll_mask s.query.columnTypes s.query.filters
  simp only [statement, hconditions, checked_map, bind_map_eq, map_bind_eq]
  rfl

theorem Select.countStatement_mask (s : Select) :
    s.mask.countStatement = s.countStatement.map Sql.Statement.mask := by
  have hconditions : s.mask.query.predicates = s.query.predicates.map Sql.Predicate.maskAll :=
    Sql.Filter.checkAll_mask s.query.columnTypes s.query.filters
  simp only [countStatement, hconditions, checked_map, bind_map_eq, map_bind_eq]
  rfl

theorem Insert.statement_mask (i : Insert) :
    i.mask.statement = i.statement.map Sql.Statement.mask := by
  have hslots : slots i.mask.columnTypes i.mask.values =
      (slots i.columnTypes i.values).map (List.map fun v => (v.1, v.2.mask)) := by
    refine mapM_map_eq (fun p => ?_) i.values
    obtain ⟨column, value⟩ := p
    simp only [map_bind_eq]
    rfl
  simp only [statement, hslots, checked_map, bind_map_eq, map_bind_eq]
  rfl

theorem Update.statement_mask (u : Update) :
    u.mask.statement = u.statement.map Sql.Statement.mask := by
  have hset : assigned u.mask.columnTypes u.mask.set =
      (assigned u.columnTypes u.set).map Sql.Assigned.maskAll := by
    refine mapM_map_eq (fun p => ?_) u.set
    obtain ⟨column, value⟩ := p
    cases value with
    | value v =>
      simp only [map_bind_eq]
      rfl
    | expression sql =>
      simp only [map_bind_eq]
      rfl
  have hconditions : Sql.Filter.checkAll u.mask.columnTypes u.mask.filters =
      (Sql.Filter.checkAll u.columnTypes u.filters).map Sql.Predicate.maskAll :=
    Sql.Filter.checkAll_mask u.columnTypes u.filters
  have hset? : u.mask.set.isEmpty = u.set.isEmpty := by
    simp only [mask]
    cases u.set <;> rfl
  have hfilters? : u.mask.filters.isEmpty = u.filters.isEmpty := by
    simp only [mask]
    cases u.filters <;> rfl
  simp only [statement, hset, hconditions, hset?, hfilters?, checked_map, bind_map_eq, map_bind_eq]
  cases u.set.isEmpty with
  | true => rfl
  | false =>
    cases u.filters.isEmpty with
    | true => rfl
    | false =>
      simp only [Bool.false_eq_true, if_false, map_bind_eq]
      rfl

theorem Delete.statement_mask (d : Delete) :
    d.mask.statement = d.statement.map Sql.Statement.mask := by
  have hconditions : Sql.Filter.checkAll d.mask.columnTypes d.mask.filters =
      (Sql.Filter.checkAll d.columnTypes d.filters).map Sql.Predicate.maskAll :=
    Sql.Filter.checkAll_mask d.columnTypes d.filters
  have hempty : d.mask.filters.isEmpty = d.filters.isEmpty := by
    simp only [mask]
    cases d.filters <;> rfl
  simp only [statement, hconditions, hempty, checked_map, bind_map_eq, map_bind_eq]
  cases d.filters.isEmpty with
  | true => rfl
  | false =>
    simp only [Bool.false_eq_true, if_false, map_bind_eq]
    rfl

/-- **Rendering commutes with masking**, and is refused with the same error. -/
theorem Builder.render_mask (b : Builder) : b.mask.render = b.render.map Sql.Rendered.mask := by
  have hstatement : b.mask.statement = b.statement.map Sql.Statement.mask := by
    cases b with
    | select s => exact s.statement_mask
    | count s => exact s.countStatement_mask
    | insert i => exact i.statement_mask
    | update u => exact u.statement_mask
    | delete d => exact d.statement_mask
  rw [render_eq, render_eq, hstatement]
  cases b.statement with
  | error e => rfl
  | ok s => exact congrArg Except.ok s.render_mask

/-! ## Steps and drafts -/

def Select.Step.mask : Select.Step → Select.Step
  | .filter f => .filter f.mask
  | step => step

def Insert.Step.mask : Insert.Step → Insert.Step
  | .value column _ => .value column .masked
  | .valuesFrom model => .valuesFrom model.mask
  | step => step

def Update.Step.mask : Update.Step → Update.Step
  | .set column _ => .set column .masked
  | .setFrom model => .setFrom model.mask
  | .filter f => .filter f.mask
  | step => step

def Delete.Step.mask : Delete.Step → Delete.Step
  | .filter f => .filter f.mask
  | step => step

/-- The draft without its values. -/
def Draft.mask : Draft → Draft
  | .select table steps => .select table (steps.map Select.Step.mask)
  | .count table steps => .count table (steps.map Select.Step.mask)
  | .insert table steps => .insert table (steps.map Insert.Step.mask)
  | .update table steps => .update table (steps.map Update.Step.mask)
  | .delete table steps => .delete table (steps.map Delete.Step.mask)

theorem Select.apply_mask (s : Select) (step : Select.Step) :
    s.mask.apply step.mask = (s.apply step).mask := by
  cases step with
  | filter f => simp only [apply, Step.mask, mask, Sql.Query.apply, Sql.Filter.maskAll_append]; rfl
  | _ => rfl

theorem Delete.apply_mask (d : Delete) (step : Delete.Step) :
    d.mask.apply step.mask = (d.apply step).mask := by
  cases step with
  | filter f => simp only [apply, Step.mask, mask, Sql.Filter.maskAll_append]; rfl
  | _ => rfl

theorem Insert.apply_mask (i : Insert) (step : Insert.Step) :
    i.mask.apply step.mask = (i.apply step).map Insert.mask := by
  cases step with
  | value column value =>
    have hassign := Assignments.assign_map (fun _ => Json.masked) column value i.values
    exact congrArg (fun values => Except.ok { i with values }) hassign
  | valuesFrom model =>
    -- the columns are the same, their values masked
    have hcolumns : model.mask.columns i.mask.table =
        (model.columns i.table).map (List.map fun p => (p.1, .masked)) :=
      Model.columns_mask i.table model
    simp only [Step.mask, apply, hcolumns, bind_map_eq, map_bind_eq]
    refine congrArg _ (funext fun columns => ?_)
    have hassign := Assignments.assignAll_map (fun _ => Json.masked) columns i.values
    exact congrArg (fun values => Except.ok { i with values }) hassign
  | columnType column type => rfl
  | returning names => rfl

theorem Update.apply_mask (u : Update) (step : Update.Step) :
    u.mask.apply step.mask = (u.apply step).map Update.mask := by
  cases step with
  | set column value =>
    have hassign := Assignments.assign_map NewValue.mask column (.value value) u.set
    exact congrArg (fun set => Except.ok { u.mask with set }) hassign
  | setExpression column sql =>
    have hassign := Assignments.assign_map NewValue.mask column (.expression sql) u.set
    exact congrArg (fun set => Except.ok { u.mask with set }) hassign
  | setFrom model =>
    have hcolumns : model.mask.columns u.mask.table =
        (model.columns u.table).map (List.map fun p => (p.1, .masked)) :=
      Model.columns_mask u.table model
    simp only [Step.mask, apply, hcolumns, bind_map_eq, map_bind_eq]
    refine congrArg _ (funext fun columns => ?_)
    have hassign := Assignments.assignAll_map NewValue.mask
      (columns.map fun p => (p.1, .value p.2)) u.set
    -- taking the columns and masking them can be done in either order
    rw [List.map_map] at hassign
    rw [List.map_map]
    exact congrArg (fun set => Except.ok { u.mask with set }) hassign
  | remove column =>
    have hremove : Assignments.remove column (u.set.map fun p => (p.1, p.2.mask)) =
        (Assignments.remove column u.set).map fun p => (p.1, p.2.mask) := by
      rw [Assignments.remove, List.filter_map]
      rfl
    exact congrArg (fun set => Except.ok { u.mask with set }) hremove
  | filter f =>
    have hfilters := Sql.Filter.maskAll_append u.filters [f]
    exact congrArg (fun filters => Except.ok { u.mask with filters }) hfilters.symm
  | columnType column type => rfl
  | returning names => rfl

/-- **Building commutes with masking**, and is refused with the same error. -/
theorem Draft.build_mask (d : Draft) : d.mask.build = d.build.map Builder.mask := by
  cases d with
  | select table steps =>
    have hrun : Select.run { table } (steps.map Select.Step.mask) =
        (Select.run { table } steps).mask := foldl_map_eq Select.apply_mask { table } steps
    exact congrArg (fun s => Except.ok (Builder.select s)) hrun
  | count table steps =>
    have hrun : Select.run { table } (steps.map Select.Step.mask) =
        (Select.run { table } steps).mask := foldl_map_eq Select.apply_mask { table } steps
    exact congrArg (fun s => Except.ok (Builder.count s)) hrun
  | delete table steps =>
    have hrun : Delete.run { table } (steps.map Delete.Step.mask) =
        (Delete.run { table } steps).mask := foldl_map_eq Delete.apply_mask { table } steps
    exact congrArg (fun d => Except.ok (Builder.delete d)) hrun
  | insert table steps =>
    have hrun : Insert.run { table } (steps.map Insert.Step.mask) =
        (Insert.run { table } steps).map Insert.mask :=
      foldlM_map_eq Insert.apply_mask { table } steps
    rw [mask, build, build, hrun]
    cases Insert.run { table } steps <;> rfl
  | update table steps =>
    have hrun : Update.run { table } (steps.map Update.Step.mask) =
        (Update.run { table } steps).map Update.mask :=
      foldlM_map_eq Update.apply_mask { table } steps
    rw [mask, build, build, hrun]
    cases Update.run { table } steps <;> rfl

/-- Builds the statement and renders it. -/
def Draft.render (d : Draft) : Except StoreError Sql.Rendered := d.build >>= Builder.render

theorem Draft.render_mask (d : Draft) : d.mask.render = d.render.map Sql.Rendered.mask := by
  rw [render, render, build_mask, bind_map_eq, map_bind_eq]
  exact congrArg _ (funext Builder.render_mask)

/-- **Values never reach the text.** Two drafts that differ in nothing but values, as far as masking
tells, are both refused with the same error, or both have the same text and bind the same number of
values. -/
theorem Draft.render_eq_of_mask_eq {d d' : Draft} (h : d.mask = d'.mask) :
    (∃ e, d.render = .error e ∧ d'.render = .error e) ∨
      ∃ r r', d.render = .ok r ∧ d'.render = .ok r' ∧ r.text = r'.text ∧
        r.values.length = r'.values.length := by
  have hrender : d.render.map Sql.Rendered.mask = d'.render.map Sql.Rendered.mask := by
    rw [← render_mask, ← render_mask, h]
  cases hd : d.render with
  | error e =>
    cases hd' : d'.render with
    | error e' =>
      rw [hd, hd'] at hrender
      cases hrender
      exact .inl ⟨e, rfl, rfl⟩
    | ok r' =>
      rw [hd, hd'] at hrender
      cases hrender
  | ok r =>
    cases hd' : d'.render with
    | error e' =>
      rw [hd, hd'] at hrender
      cases hrender
    | ok r' =>
      rw [hd, hd'] at hrender
      have hmask : r.mask = r'.mask := Except.ok.inj hrender
      have hvalues := congrArg (fun r => r.values.length) hmask
      simp only [Sql.Rendered.mask, List.length_map] at hvalues
      exact .inr ⟨r, r', rfl, rfl, congrArg (·.text) hmask, hvalues⟩

/-- Two updates with other values in each place that holds one. -/
theorem Draft.render_eq_of_mask_eq_update :
    let d : Draft := .update "t" [.set "a" (.string "'; DROP TABLE t; --"),
      .setFrom (.ok (.object [("b", .null), ("c", .int 1)])), .filter (.isIn "k" [.int 1, .null])]
    let d' : Draft := .update "t" [.set "a" .null,
      .setFrom (.ok (.object [("b", .null), ("c", .string "$9")])),
      .filter (.isIn "k" [.array [], .bool false])]
    d.mask = d'.mask ∧ ∃ r r', d.render = .ok r ∧ d'.render = .ok r' ∧ r.text = r'.text ∧
      r.values.length = r'.values.length ∧
      r.text = "UPDATE \"t\" SET \"a\" = $1, \"c\" = $2 WHERE \"k\" IN ($3, $4)" := by
  intro d d'
  have hmask : d.mask = d'.mask := rfl
  rcases render_eq_of_mask_eq hmask with ⟨e, he, _⟩ | ⟨r, r', hr, hr', htext, hvalues⟩
  · cases he
  · refine ⟨hmask, r, r', hr, hr', htext, hvalues, ?_⟩
    cases hr
    decide

/-- A member of a model that is null leaves its column out of the text: here two insertions differ
in nothing but a value, and their texts differ. -/
theorem Draft.render_nullMember :
    ¬∀ (value value' : Json) (r r' : Sql.Rendered),
      (Draft.insert "t" [.valuesFrom (.ok (.object [("a", value)]))]).render = .ok r →
      (Draft.insert "t" [.valuesFrom (.ok (.object [("a", value')]))]).render = .ok r' →
      r.text = r'.text := by
  intro h
  have htexts := h .null (.int 1) _ _ rfl rfl
  revert htexts
  decide

end Rowgate.Store
