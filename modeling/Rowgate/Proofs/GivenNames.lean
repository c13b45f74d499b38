import Rowgate.Proofs.Draft
/-
The names that a statement is built from.

A draft names a table and columns in many places: the columns wanted, set, compared, sorted by and
given back, and the keys of the models that columns are taken from. `Draft.names` gathers them from
the steps and `Builder.names` from what a builder holds after the steps. A step puts no name into a
builder but those it gives (`Draft.build_names`), so what is shown of the names of a builder holds of
names that were given.
-/
set_option autoImplicit false

namespace Rowgate

theorem Sql.Filter.fieldsOf_append (fs gs : List Filter) :
    fieldsOf (fs ++ gs) = fieldsOf fs ++ fieldsOf gs := by
  induction fs with
  | nil => rfl
  | cons f fs ih => rw [List.cons_append, fieldsOf, fieldsOf, ih, List.append_assoc]

namespace Store

/-! ## Names that steps give -/

/-- The columns that a model names: the keys of an object. -/
def Model.names : Model → List String
  | .ok (.object members) => members.map (·.1)
  | _ => []

/-- The names that a step gives. -/
def Select.Step.names : Select.Step → List String
  | .columns names => names
  | .filter f => f.fields
  | .orderBy column _ => [column]
  | _ => []

/-- The names that a step gives. -/
def Insert.Step.names : Insert.Step → List String
  | .value column _ => [column]
  | .valuesFrom model => model.names
  | .returning names => names
  | _ => []

/-- The names that a step gives. -/
def Update.Step.names : Update.Step → List String
  | .set column _ => [column]
  | .setExpression column _ => [column]
  | .setFrom model => model.names
  | .filter f => f.fields
  | .returning names => names
  | _ => []

/-- The names that a step gives. -/
def Delete.Step.names : Delete.Step → List String
  | .filter f => f.fields
  | .returning names => names
  | _ => []

/-- The names that are given for a draft: its table, and those of its steps. -/
def Draft.names : Draft → List String
  | .select table steps => table :: steps.flatMap Select.Step.names
  | .count table steps => table :: steps.flatMap Select.Step.names
  | .insert table steps => table :: steps.flatMap Insert.Step.names
  | .update table steps => table :: steps.flatMap Update.Step.names
  | .delete table steps => table :: steps.flatMap Delete.Step.names

/-! ## Names that a builder holds -/

def Select.names (s : Select) : List String :=
  s.table :: (s.columns ++ (Sql.Filter.fieldsOf s.query.filters ++ s.query.order.map (·.1)))

def Insert.names (i : Insert) : List String := i.table :: (i.values.map (·.1) ++ i.returning)

def Update.names (u : Update) : List String :=
  u.table :: (u.set.map (·.1) ++ (Sql.Filter.fieldsOf u.filters ++ u.returning))

def Delete.names (d : Delete) : List String :=
  d.table :: (Sql.Filter.fieldsOf d.filters ++ d.returning)

/-- The names that the statement of a builder may hold. -/
def Builder.names : Builder → List String
  | .select s => s.names
  | .count s => s.names
  | .insert i => i.names
  | .update u => u.names
  | .delete d => d.names

/-! ## One step -/

theorem Model.columns_names {table : String} {model : Model} {columns : List (String × Json)}
    (h : model.columns table = .ok columns) : columns.map (·.1) ⊆ model.names := by
  cases model with
  | error text => cases h
  | ok value =>
    cases value with
    | object members =>
      cases h
      exact List.map_subset _ (List.filter_subset_self _)
    | _ => cases h

section Assign

variable {α : Type}

theorem Assignments.names_assign (column : String) (value : α) (a : Assignments α) :
    (a.assign column value).map (·.1) ⊆ column :: a.map (·.1) := by
  intro name hname
  obtain ⟨p, hp, rfl⟩ := List.mem_map.mp hname
  rcases mem_assign hp with rfl | hp
  · exact List.mem_cons_self
  · exact List.mem_cons_of_mem _ (List.mem_map_of_mem hp)

theorem Assignments.names_assignAll (pairs : List (String × α)) (a : Assignments α) :
    (a.assignAll pairs).map (·.1) ⊆ pairs.map (·.1) ++ a.map (·.1) := by
  intro name hname
  obtain ⟨p, hp, rfl⟩ := List.mem_map.mp hname
  rcases mem_assignAll hp with hp | hp
  · exact List.mem_append_left _ (List.mem_map_of_mem hp)
  · exact List.mem_append_right _ (List.mem_map_of_mem hp)

end Assign

section Brought

variable {α : Type} {given a a' b b' : List α}

/-- If nothing comes to two lists but what is given, then neither to the two together. -/
theorem append_brought (ha : a' ⊆ given ++ a) (hb : b' ⊆ given ++ b) :
    a' ++ b' ⊆ given ++ (a ++ b) := by
  intro x hx
  rcases List.mem_append.mp hx with hx | hx
  · rcases List.mem_append.mp (ha hx) with hgiven | hbefore
    · exact List.mem_append_left _ hgiven
    · exact List.mem_append_right _ (List.mem_append_left _ hbefore)
  · rcases List.mem_append.mp (hb hx) with hgiven | hbefore
    · exact List.mem_append_left _ hgiven
    · exact List.mem_append_right _ (List.mem_append_right _ hbefore)

theorem cons_brought (x : α) (ha : a' ⊆ given ++ a) : x :: a' ⊆ given ++ x :: a :=
  append_brought (a := [x]) (List.subset_append_right _ _) ha

theorem append_given : a ++ given ⊆ given ++ a :=
  fun _ hx => List.mem_append.mpr (List.mem_append.mp hx).symm

end Brought

theorem fieldsOf_added (fs : List Sql.Filter) (f : Sql.Filter) :
    Sql.Filter.fieldsOf (fs ++ [f]) ⊆ f.fields ++ Sql.Filter.fieldsOf fs := by
  rw [Sql.Filter.fieldsOf_append, Sql.Filter.fieldsOf, Sql.Filter.fieldsOf, List.append_nil]
  exact append_given

theorem Select.apply_names (s : Select) (step : Select.Step) :
    (s.apply step).names ⊆ step.names ++ s.names := by
  have hparts : ∀ {columns fields sorted : List String}, columns ⊆ step.names ++ s.columns →
      fields ⊆ step.names ++ Sql.Filter.fieldsOf s.query.filters →
      sorted ⊆ step.names ++ s.query.order.map (·.1) →
      s.table :: (columns ++ (fields ++ sorted)) ⊆ step.names ++ s.names :=
    fun hcolumns hfields hsorted =>
      cons_brought _ (append_brought hcolumns (append_brought hfields hsorted))
  have hkeep : ∀ names : List String, names ⊆ step.names ++ names :=
    fun names => List.subset_append_right _ _
  cases step with
  | columns names => exact hparts (List.subset_append_left _ _) (hkeep _) (hkeep _)
  | filter f => exact hparts (hkeep _) (fieldsOf_added _ _) (hkeep _)
  | orderBy column direction =>
    have hsorted : (s.query.order ++ [(column, direction)]).map (·.1) ⊆
        [column] ++ s.query.order.map (·.1) := by
      rw [List.map_append]
      exact append_given
    exact hparts (hkeep _) (hkeep _) hsorted
  | columnType column type => exact hparts (hkeep _) (hkeep _) (hkeep _)
  | limit n => exact hparts (hkeep _) (hkeep _) (hkeep _)
  | offset n => exact hparts (hkeep _) (hkeep _) (hkeep _)
  | paginate page => exact hparts (hkeep _) (hkeep _) (hkeep _)

theorem Delete.apply_names (d : Delete) (step : Delete.Step) :
    (d.apply step).names ⊆ step.names ++ d.names := by
  have hkeep : ∀ names : List String, names ⊆ step.names ++ names :=
    fun names => List.subset_append_right _ _
  cases step with
  | filter f => exact cons_brought _ (append_brought (fieldsOf_added _ _) (hkeep _))
  | columnType column type => exact cons_brought _ (append_brought (hkeep _) (hkeep _))
  | returning names =>
    exact cons_brought _ (append_brought (hkeep _) (List.subset_append_left _ _))

theorem Insert.apply_names {i i' : Insert} {step : Insert.Step} (h : i.apply step = .ok i') :
    i'.names ⊆ step.names ++ i.names := by
  have hkeep : ∀ names : List String, names ⊆ step.names ++ names :=
    fun names => List.subset_append_right _ _
  cases step with
  | value column value =>
    cases h
    exact cons_brought _ (append_brought (Assignments.names_assign column value _) (hkeep _))
  | valuesFrom model =>
    obtain ⟨columns, hcolumns, h⟩ := bind_eq_ok.mp h
    cases h
    refine cons_brought _ (append_brought ?_ (hkeep _))
    exact List.Subset.trans (Assignments.names_assignAll columns i.values)
      (List.append_subset.mpr ⟨List.subset_append_of_subset_left _ (Model.columns_names hcolumns),
        hkeep _⟩)
  | columnType column type =>
    cases h
    exact cons_brought _ (append_brought (hkeep _) (hkeep _))
  | returning names =>
    cases h
    exact cons_brought _ (append_brought (hkeep _) (List.subset_append_left _ _))

theorem Update.apply_names {u u' : Update} {step : Update.Step} (h : u.apply step = .ok u') :
    u'.names ⊆ step.names ++ u.names := by
  have hparts : ∀ {set fields returning : List String}, set ⊆ step.names ++ u.set.map (·.1) →
      fields ⊆ step.names ++ Sql.Filter.fieldsOf u.filters →
      returning ⊆ step.names ++ u.returning →
      u.table :: (set ++ (fields ++ returning)) ⊆ step.names ++ u.names :=
    fun hset hfields hreturning =>
      cons_brought _ (append_brought hset (append_brought hfields hreturning))
  have hkeep : ∀ names : List String, names ⊆ step.names ++ names :=
    fun names => List.subset_append_right _ _
  cases step with
  | set column value =>
    cases h
    exact hparts (Assignments.names_assign column _ u.set) (hkeep _) (hkeep _)
  | setExpression column sql =>
    cases h
    exact hparts (Assignments.names_assign column _ u.set) (hkeep _) (hkeep _)
  | setFrom model =>
    obtain ⟨columns, hcolumns, h⟩ := bind_eq_ok.mp h
    cases h
    refine hparts (List.Subset.trans (Assignments.names_assignAll _ u.set) ?_) (hkeep _) (hkeep _)
    rw [List.map_map]
    exact List.append_subset.mpr
      ⟨List.subset_append_of_subset_left _ (Model.columns_names hcolumns), hkeep _⟩
  | remove column =>
    cases h
    have hremaining : (u.set.remove column).map (·.1) ⊆ u.set.map (·.1) :=
      List.map_subset _ (List.filter_subset_self _)
    exact hparts (List.Subset.trans hremaining (hkeep _)) (hkeep _) (hkeep _)
  | filter f =>
    cases h
    exact hparts (hkeep _) (fieldsOf_added _ _) (hkeep _)
  | columnType column type =>
    cases h
    exact hparts (hkeep _) (hkeep _) (hkeep _)
  | returning names =>
    cases h
    exact hparts (hkeep _) (hkeep _) (List.subset_append_left _ _)

/-! ## Runs -/

/-- **A builder holds only names that were given.** -/
theorem Draft.build_names {d : Draft} {b : Builder} (h : d.build = .ok b) : b.names ⊆ d.names := by
  -- a builder starts with the name of its table
  have hstart : ∀ {table : String} {given held : List String}, held ⊆ given ++ [table] →
      held ⊆ table :: given := by
    intro table given held hheld name hname
    rcases List.mem_append.mp (hheld hname) with h | h
    · exact List.mem_cons_of_mem _ h
    · rw [List.mem_singleton.mp h]
      exact List.mem_cons_self
  have hselect : ∀ table steps, (Select.run { table } steps).names ⊆
      table :: steps.flatMap Select.Step.names := by
    intro table steps
    have hstep : ∀ (s : Select) (step : Select.Step) (s' : Select),
        (.ok (s.apply step) : Except Unit Select) = .ok s' → s'.names ⊆ step.names ++ s.names := by
      intro s step s' h
      cases h
      exact s.apply_names step
    exact hstart (foldlM_subset hstep steps { table } _ (foldlM_ok Select.apply { table } steps))
  cases d with
  | select table steps => cases h; exact hselect table steps
  | count table steps => cases h; exact hselect table steps
  | insert table steps =>
    obtain ⟨i, hi, rfl⟩ := map_eq_ok.mp h
    have hstep : ∀ (i : Insert) (step : Insert.Step) (i' : Insert),
        i.apply step = .ok i' → i'.names ⊆ step.names ++ i.names := fun _ _ _ => Insert.apply_names
    exact hstart (foldlM_subset hstep steps { table } i hi)
  | update table steps =>
    obtain ⟨u, hu, rfl⟩ := map_eq_ok.mp h
    have hstep : ∀ (u : Update) (step : Update.Step) (u' : Update),
        u.apply step = .ok u' → u'.names ⊆ step.names ++ u.names := fun _ _ _ => Update.apply_names
    exact hstart (foldlM_subset hstep steps { table } u hu)
  | delete table steps =>
    cases h
    have hstep : ∀ (d : Delete) (step : Delete.Step) (d' : Delete),
        (.ok (d.apply step) : Except Unit Delete) = .ok d' → d'.names ⊆ step.names ++ d.names := by
      intro d step d' h
      cases h
      exact d.apply_names step
    exact hstart (foldlM_subset hstep steps { table } _ (foldlM_ok Delete.apply { table } steps))

end Store

end Rowgate
