import Rowgate.Proofs.ValueFree
/-
Steps that may change places.

A step of a builder is about one thing: the columns wanted, the columns assigned, the conditions,
the order, the page, the types of columns or the columns given back. Steps about different things
commute, also where one of them is refused, so a run is told by the steps about each thing in their
own order (`foldlM_eq_of_groups`). The types are looked up only when the statement is rendered. They
can be taken out of a run altogether, and then only the last type of each column counts, wherever in
the run it was registered.

The main result is `Draft.render_eq_of_regrouped`.
-/
set_option autoImplicit false

namespace Rowgate

/-! ## Runs of steps in groups -/

section Groups

variable {σ τ γ ε : Type} {f : σ → τ → Except ε σ} {group : τ → γ}

/-- Steps of different groups can change places. -/
def GroupsCommute (f : σ → τ → Except ε σ) (group : τ → γ) : Prop :=
  ∀ s a b, group a ≠ group b → (f s a >>= fun s' => f s' b) = f s b >>= fun s' => f s' a

/-- A step can be moved in front of steps of other groups. -/
theorem foldlM_move_front (h : GroupsCommute f group) {front : List τ} {a : τ}
    (hfront : ∀ b ∈ front, group b ≠ group a) (rest : List τ) (s : σ) :
    (front ++ a :: rest).foldlM f s = (a :: (front ++ rest)).foldlM f s := by
  induction front generalizing s with
  | nil => rfl
  | cons b front ih =>
    obtain ⟨hb, hfront⟩ := List.forall_mem_cons.mp hfront
    calc (b :: front ++ a :: rest).foldlM f s
        = f s b >>= fun s' => (front ++ a :: rest).foldlM f s' := List.foldlM_cons
      _ = f s b >>= fun s' => f s' a >>= fun s'' => (front ++ rest).foldlM f s'' :=
          bind_congr fun s' => (ih hfront s').trans List.foldlM_cons
      _ = f s a >>= fun s' => f s' b >>= fun s'' => (front ++ rest).foldlM f s'' := by
          rw [← bind_assoc, h s b a hb, bind_assoc]
      _ = (a :: (b :: front ++ rest)).foldlM f s := by
          rw [List.cons_append, List.foldlM_cons]
          exact bind_congr fun s' => List.foldlM_cons.symm

variable [DecidableEq γ]

/-- **A run is told by its groups.** If steps of different groups commute, two runs are the same in
which the steps of each group stand in the same order. -/
theorem foldlM_eq_of_groups (h : GroupsCommute f group) {steps steps' : List τ}
    (hsteps : ∀ g, (steps.filter fun a => group a = g) = steps'.filter fun a => group a = g) (s : σ) :
    steps.foldlM f s = steps'.foldlM f s := by
  induction steps generalizing steps' s with
  | nil =>
    have hnil : steps' = [] := by
      refine List.eq_nil_iff_forall_not_mem.mpr fun a ha => ?_
      have hmem : a ∈ steps'.filter fun b => group b = group a :=
        List.mem_filter.mpr ⟨ha, decide_eq_true rfl⟩
      rw [← hsteps] at hmem
      contradiction
    rw [hnil]
  | cons a steps ih =>
    -- the first step of its group in the other run is this one, and can be moved to the front there
    have ha := hsteps (group a)
    rw [List.filter_cons_of_pos (by simp)] at ha
    obtain ⟨front, rest, rfl, hfront, -, hrest⟩ := List.filter_eq_cons_iff.mp ha.symm
    have hother : ∀ b ∈ front, group b ≠ group a := fun b hb heq => hfront b hb (decide_eq_true heq)
    rw [foldlM_move_front h hother, List.foldlM_cons, List.foldlM_cons]
    refine bind_congr fun s' => ih (fun g => ?_) s'
    by_cases hg : group a = g
    · subst hg
      rw [← hrest, List.filter_append, List.filter_eq_nil_iff.mpr hfront, List.nil_append]
    · have hstep := hsteps g
      rw [List.filter_cons_of_neg (by simpa using hg), List.filter_append,
        List.filter_cons_of_neg (by simpa using hg), ← List.filter_append] at hstep
      exact hstep

end Groups

namespace Store

/-! ## What steps are about -/

/-- What a step of a builder is about. -/
inductive Concern where
  | columns
  | assignments
  | conditions
  | order
  | page
  | types
  | returning
deriving DecidableEq

def Select.Step.concern : Select.Step → Concern
  | .columns _ => .columns
  | .filter _ => .conditions
  | .columnType _ _ => .types
  | .orderBy _ _ => .order
  | .limit _ | .offset _ | .paginate _ => .page

def Insert.Step.concern : Insert.Step → Concern
  | .value _ _ | .valuesFrom _ => .assignments
  | .columnType _ _ => .types
  | .returning _ => .returning

def Update.Step.concern : Update.Step → Concern
  | .set _ _ | .setExpression _ _ | .setFrom _ | .remove _ => .assignments
  | .filter _ => .conditions
  | .columnType _ _ => .types
  | .returning _ => .returning

def Delete.Step.concern : Delete.Step → Concern
  | .filter _ => .conditions
  | .columnType _ _ => .types
  | .returning _ => .returning

/-- In both lists the steps about each thing but types stand in the same order. -/
def SameGroups {τ : Type} (concern : τ → Concern) (steps steps' : List τ) : Prop :=
  ∀ c, c ≠ .types →
    (steps.filter fun step => concern step = c) = steps'.filter fun step => concern step = c

/-- Drafts of one kind for one table, whose steps about each thing but types stand in the same
order. -/
inductive Draft.Regrouped : Draft → Draft → Prop where
  | select {table : String} {steps steps' : List Select.Step}
    (h : SameGroups Select.Step.concern steps steps') :
    Regrouped (.select table steps) (.select table steps')
  | count {table : String} {steps steps' : List Select.Step}
    (h : SameGroups Select.Step.concern steps steps') :
    Regrouped (.count table steps) (.count table steps')
  | insert {table : String} {steps steps' : List Insert.Step}
    (h : SameGroups Insert.Step.concern steps steps') :
    Regrouped (.insert table steps) (.insert table steps')
  | update {table : String} {steps steps' : List Update.Step}
    (h : SameGroups Update.Step.concern steps steps') :
    Regrouped (.update table steps) (.update table steps')
  | delete {table : String} {steps steps' : List Delete.Step}
    (h : SameGroups Delete.Step.concern steps steps') :
    Regrouped (.delete table steps) (.delete table steps')

/-! ## Types apart -/

section Types

variable {σ τ ε : Type}

/-- What is asked of the steps of a builder: those about different things commute, and those about
types register a type that no other step reads or changes. -/
structure StepsApart (f : σ → τ → Except ε σ) (concern : τ → Concern)
    (given : τ → Option (String × String)) (withTypes : σ → Keyed String → σ) : Prop where
  commute : GroupsCommute f concern
  types_iff : ∀ step, concern step = .types ↔ given step ≠ none
  register : ∀ s types step column type, given step = some (column, type) →
    f (withTypes s types) step = .ok (withTypes s (types.insert column type))
  other : ∀ s types step, given step = none →
    f (withTypes s types) step = (f s step).map (withTypes · types)

variable {f : σ → τ → Except ε σ} {concern : τ → Concern} {given : τ → Option (String × String)}
  {withTypes : σ → Keyed String → σ}

/-- **Types can be taken out of a run**, which then leaves what the other steps leave, with the
types that were registered. -/
theorem StepsApart.run_types (h : StepsApart f concern given withTypes) (steps : List τ) :
    ∀ (s : σ) (types : Keyed String), steps.foldlM f (withTypes s types) =
      ((steps.filter fun step => (given step).isNone).foldlM f s).map
        (withTypes · (types.insertAll (steps.filterMap given))) := by
  induction steps with
  | nil => intro s types; rfl
  | cons step steps ih =>
    intro s types
    rw [List.foldlM_cons]
    cases hgiven : given step with
    | some pair =>
      obtain ⟨column, type⟩ := pair
      rw [h.register s types step column type hgiven, List.filter_cons_of_neg (by simp [hgiven]),
        List.filterMap_cons_some hgiven]
      exact ih s (types.insert column type)
    | none =>
      rw [h.other s types step hgiven, List.filter_cons_of_pos (by simp [hgiven]),
        List.filterMap_cons_none hgiven, List.foldlM_cons]
      cases f s step with
      | error e => rfl
      | ok s' => exact ih s' types

/-- Runs with the same groups, and with the same last type for each column, are the same. -/
theorem StepsApart.run_eq (h : StepsApart f concern given withTypes) {steps steps' : List τ}
    (hgroups : SameGroups concern steps steps')
    (htypes : ∀ column, Keyed.lastGiven column (steps.filterMap given) =
      Keyed.lastGiven column (steps'.filterMap given)) (s : σ) :
    steps.foldlM f (withTypes s []) = steps'.foldlM f (withTypes s []) := by
  have hregistered : Keyed.ofPairs (steps.filterMap given) =
      Keyed.ofPairs (steps'.filterMap given) :=
    (Keyed.ascending_ofPairs _).ext (Keyed.ascending_ofPairs _) fun column => by
      rw [Keyed.get?_ofPairs, Keyed.get?_ofPairs, htypes]
  -- without the types, what is left of a group is the group or nothing
  have hleft (steps : List τ) (c : Concern) :
      ((steps.filter fun step => (given step).isNone).filter fun step => concern step = c) =
        if c = .types then [] else steps.filter fun step => concern step = c := by
    rw [List.filter_filter]
    split
    · rename_i hc
      refine List.filter_eq_nil_iff.mpr fun step _ hstep => ?_
      obtain ⟨hconcern, hnone⟩ := Bool.and_eq_true_iff.mp hstep
      exact (h.types_iff step).mp ((of_decide_eq_true hconcern).trans hc)
        (Option.isNone_iff_eq_none.mp hnone)
    · rename_i hc
      refine List.filter_congr fun step _ => ?_
      by_cases hconcern : concern step = c
      · have hnone : given step = none := by
          by_contra hsome
          exact hc (hconcern.symm.trans ((h.types_iff step).mpr hsome))
        simp [hconcern, hnone]
      · simp [hconcern]
  have hothers : (steps.filter fun step => (given step).isNone).foldlM f s =
      (steps'.filter fun step => (given step).isNone).foldlM f s := by
    refine foldlM_eq_of_groups h.commute (fun c => ?_) s
    rw [hleft, hleft]
    split
    · rfl
    · rename_i hc
      exact hgroups c hc
  rw [h.run_types, h.run_types, hothers]
  exact congrArg (fun types => Except.map (withTypes · types) _) hregistered

end Types

/-! ## The steps of each kind -/

theorem Select.stepsApart :
    StepsApart (fun (s : Select) step => (.ok (s.apply step) : Except StoreError Select))
      Select.Step.concern Select.Step.given
      (fun s types => { s with query := { s.query with columnTypes := types } }) where
  commute s a b hne := by
    cases a <;> cases b <;> try rfl
    -- the pairs that are left are about one thing
    all_goals exact absurd rfl hne
  types_iff step := by cases step <;> simp [Step.concern, Step.given]
  register s types step column type h := by cases step <;> cases h; rfl
  other s types step h := by
    cases step with
    | columnType column type => cases h
    | _ => rfl

theorem Delete.stepsApart :
    StepsApart (fun (d : Delete) step => (.ok (d.apply step) : Except StoreError Delete))
      Delete.Step.concern Delete.Step.given
      (fun d types => { d with columnTypes := types }) where
  commute d a b hne := by
    cases a <;> cases b <;> try rfl
    all_goals exact absurd rfl hne
  types_iff step := by cases step <;> simp [Step.concern, Step.given]
  register d types step column type h := by cases step <;> cases h; rfl
  other d types step h := by
    cases step with
    | columnType column type => cases h
    | _ => rfl

/-- Taking columns from a model commutes with steps that are not about assignments. -/
theorem Insert.valuesFrom_commute (i : Insert) (model : Model) {step : Insert.Step}
    (h : step.concern ≠ .assignments) :
    (i.apply (.valuesFrom model) >>= fun i' => i'.apply step) =
      i.apply step >>= fun i' => i'.apply (.valuesFrom model) := by
  cases step with
  | value column value => exact absurd rfl h
  | valuesFrom model' => exact absurd rfl h
  | columnType column type =>
    dsimp only [apply, bind, Except.bind]
    cases model.columns i.table <;> rfl
  | returning names =>
    dsimp only [apply, bind, Except.bind]
    cases model.columns i.table <;> rfl

theorem Insert.stepsApart :
    StepsApart Insert.apply Insert.Step.concern Insert.Step.given
      (fun i types => { i with columnTypes := types }) where
  commute i a b hne := by
    cases a with
    | valuesFrom model => exact i.valuesFrom_commute model hne.symm
    | _ =>
      cases b with
      | valuesFrom model => exact (i.valuesFrom_commute model hne).symm
      | _ => first | rfl | exact absurd rfl hne
  types_iff step := by cases step <;> simp [Step.concern, Step.given]
  register i types step column type h := by cases step <;> cases h; rfl
  other i types step h := by
    cases step with
    | columnType column type => cases h
    | valuesFrom model =>
      dsimp only [apply, bind, Except.bind]
      cases model.columns i.table <;> rfl
    | _ => rfl

/-- Taking columns from a model commutes with steps that are not about assignments. -/
theorem Update.setFrom_commute (u : Update) (model : Model) {step : Update.Step}
    (h : step.concern ≠ .assignments) :
    (u.apply (.setFrom model) >>= fun u' => u'.apply step) =
      u.apply step >>= fun u' => u'.apply (.setFrom model) := by
  cases step with
  | filter f =>
    dsimp only [apply, bind, Except.bind]
    cases model.columns u.table <;> rfl
  | columnType column type =>
    dsimp only [apply, bind, Except.bind]
    cases model.columns u.table <;> rfl
  | returning names =>
    dsimp only [apply, bind, Except.bind]
    cases model.columns u.table <;> rfl
  | _ => exact absurd rfl h

theorem Update.stepsApart :
    StepsApart Update.apply Update.Step.concern Update.Step.given
      (fun u types => { u with columnTypes := types }) where
  commute u a b hne := by
    cases a with
    | setFrom model => exact u.setFrom_commute model hne.symm
    | _ =>
      cases b with
      | setFrom model => exact (u.setFrom_commute model hne).symm
      | _ => first | rfl | exact absurd rfl hne
  types_iff step := by cases step <;> simp [Step.concern, Step.given]
  register u types step column type h := by cases step <;> cases h; rfl
  other u types step h := by
    cases step with
    | columnType column type => cases h
    | setFrom model =>
      dsimp only [apply, bind, Except.bind]
      cases model.columns u.table <;> rfl
    | _ => rfl

/-! ## Main result -/

/-- Drafts that are regrouped, with the same last type for each column, build the same, or are
refused with the same error. -/
theorem Draft.build_eq_of_regrouped {d d' : Draft} (h : d.Regrouped d')
    (htypes : ∀ column, d.typeOf column = d'.typeOf column) : d.build = d'.build := by
  cases h with
  | @select table steps steps' h =>
    have hrun := Select.stepsApart.run_eq h htypes { table }
    rw [foldlM_ok, foldlM_ok] at hrun
    exact congrArg (fun run => run.map Builder.select) hrun
  | @count table steps steps' h =>
    have hrun := Select.stepsApart.run_eq h htypes { table }
    rw [foldlM_ok, foldlM_ok] at hrun
    exact congrArg (fun run => run.map Builder.count) hrun
  | @insert table steps steps' h =>
    exact congrArg (fun run => run.map Builder.insert) (Insert.stepsApart.run_eq h htypes { table })
  | @update table steps steps' h =>
    exact congrArg (fun run => run.map Builder.update) (Update.stepsApart.run_eq h htypes { table })
  | @delete table steps steps' h =>
    have hrun := Delete.stepsApart.run_eq h htypes { table }
    rw [foldlM_ok, foldlM_ok] at hrun
    exact congrArg (fun run => run.map Builder.delete) hrun

/-- **Steps about different things commute.** Two drafts of one kind for one table, in which the
steps about each thing stand in the same order, render to the same text and values or are refused
with the same error. Of the steps that register types only the order for each column counts, and of
those for one column only the last, wherever it stands. -/
theorem Draft.render_eq_of_regrouped {d d' : Draft} (h : d.Regrouped d') :
    (d.given = d'.given → d.render = d'.render) ∧
    (Keyed.Reordered d.given d'.given → d.render = d'.render) ∧
    ((∀ column, d.typeOf column = d'.typeOf column) → d.render = d'.render) := by
  have hlast (htypes : ∀ column, d.typeOf column = d'.typeOf column) : d.render = d'.render := by
    rw [render, render, build_eq_of_regrouped h htypes]
  have hreordered (hgiven : Keyed.Reordered d.given d'.given) : d.render = d'.render :=
    hlast fun column => by rw [typeOf, typeOf, Keyed.lastGiven, Keyed.lastGiven, hgiven column]
  refine ⟨fun hgiven => hreordered fun column => ?_, hreordered, hlast⟩
  rw [hgiven]

/-- An update whose types come first, one of them twice, and the same steps about each thing with
the types behind what they apply to. -/
theorem Draft.render_eq_of_regrouped_update :
    let model : Model := .ok (.object [("b", .int 1), ("c", .null)])
    let d : Draft := .update "t" [.columnType "a" "int4", .columnType "b" "text",
      .columnType "a" "uuid", .setFrom model, .setExpression "d" "now()", .filter (.eq "a" .null),
      .filter (.isNull "e"), .returning ["*"]]
    let d' : Draft := .update "t" [.filter (.eq "a" .null), .returning ["*"], .setFrom model,
      .columnType "a" "uuid", .filter (.isNull "e"), .setExpression "d" "now()",
      .columnType "b" "text"]
    d.Regrouped d' ∧ (∀ column, d.typeOf column = d'.typeOf column) ∧ d.render = d'.render ∧
      d.render = .ok ⟨"UPDATE \"t\" SET \"b\" = $1::text, \"d\" = now() WHERE \"a\" = $2::uuid " ++
        "AND \"e\" IS NULL RETURNING *", [.int 1, .null]⟩ := by
  intro model d d'
  have hgroups : d.Regrouped d' := by
    refine .update fun c hc => ?_
    cases c <;> first | rfl | exact absurd rfl hc
  have htypes : ∀ column, d.typeOf column = d'.typeOf column := by
    intro column
    have hgiven : d.given = [("a", "int4"), ("b", "text"), ("a", "uuid")] := rfl
    have hgiven' : d'.given = [("a", "uuid"), ("b", "text")] := rfl
    rw [typeOf, typeOf, hgiven, hgiven']
    by_cases ha : "a" = column
    · subst ha; rfl
    by_cases hb : "b" = column
    · subst hb; rfl
    simp [Keyed.lastGiven, ha, hb]
  exact ⟨hgroups, htypes, (render_eq_of_regrouped hgroups).2.2 htypes, by decide⟩

end Store

end Rowgate
