import Mathlib.Data.List.Forall2
import Rowgate.Store.Select
import Rowgate.Store.Update
import Rowgate.Store.Delete
/-
What a check that succeeds has checked.

`Filter.check` and the checks of the statements are written in `Except`, each step behind the ones
before it. This file opens them once: an accepted identifier has the name it was made from, an
accepted cast is the type registered for the column, and a condition is checked according to the
`Question` it asks, of which there are four kinds. Later files reason on the four kinds and never on
the operators and values behind them.

`CheckInvariant.check` is the induction that every statement about checked filters is proved by.
-/
set_option autoImplicit false

namespace Rowgate

/-! ## Steps that may fail -/

section Except

variable {ε α β : Type}

theorem bind_eq_ok {x : Except ε α} {f : α → Except ε β} {b : β} :
    (x >>= f) = .ok b ↔ ∃ a, x = .ok a ∧ f a = .ok b := by
  cases x with
  | error e =>
    constructor
    · intro h; cases h
    · rintro ⟨_, h, _⟩; cases h
  | ok a =>
    constructor
    · intro h; exact ⟨a, rfl, h⟩
    · rintro ⟨_, h, h'⟩; cases h; exact h'

theorem bind_eq_error {x : Except ε α} {f : α → Except ε β} {e : ε} :
    (x >>= f) = .error e ↔ x = .error e ∨ ∃ a, x = .ok a ∧ f a = .error e := by
  cases x with
  | error e' =>
    constructor
    · intro h
      cases h
      exact .inl rfl
    · rintro (h | ⟨_, h, _⟩)
      · cases h
        rfl
      · cases h
  | ok a =>
    constructor
    · intro h
      exact .inr ⟨a, rfl, h⟩
    · rintro (h | ⟨_, h, hf⟩)
      · cases h
      · cases h
        exact hf

theorem toOption_eq_some_iff {x : Except ε α} {a : α} : x.toOption = some a ↔ x = .ok a := by
  cases x <;> simp [Except.toOption]

theorem map_eq_ok {x : Except ε α} {f : α → β} {b : β} :
    x.map f = .ok b ↔ ∃ a, x = .ok a ∧ f a = b := by
  cases x with
  | error e =>
    constructor
    · intro h; cases h
    · rintro ⟨_, h, _⟩; cases h
  | ok a =>
    constructor
    · intro h; cases h; exact ⟨a, rfl, rfl⟩
    · rintro ⟨_, h, h'⟩; cases h; rw [← h']; rfl

theorem map_eq_error {x : Except ε α} {f : α → β} {e : ε} :
    x.map f = .error e ↔ x = .error e := by
  cases x <;> simp [Except.map]

/-- A list is worked through element by element: the results stand one for one. -/
theorem mapM_eq_ok {f : α → Except ε β} {xs : List α} {ys : List β} (h : xs.mapM f = .ok ys) :
    List.Forall₂ (fun x y => f x = .ok y) xs ys := by
  induction xs generalizing ys with
  | nil =>
    rw [List.mapM_nil] at h
    cases h
    exact .nil
  | cons x xs ih =>
    rw [List.mapM_cons] at h
    obtain ⟨y, hy, h⟩ := bind_eq_ok.mp h
    obtain ⟨rest, hrest, h⟩ := bind_eq_ok.mp h
    cases h
    exact .cons hy (ih hrest)

/-- Working through a list stops at the first element that fails, with its error. -/
theorem mapM_eq_error {f : α → Except ε β} {xs : List α} {e : ε} :
    xs.mapM f = .error e ↔ ∃ earlier x later, xs = earlier ++ x :: later ∧
      (∀ x' ∈ earlier, ∃ y, f x' = .ok y) ∧ f x = .error e := by
  induction xs with
  | nil => simp [pure, Except.pure]
  | cons x xs ih =>
    rw [List.mapM_cons, bind_eq_error]
    constructor
    · rintro (hx | ⟨y, hy, hrest⟩)
      · exact ⟨[], x, xs, rfl, by simp, hx⟩
      · -- the first one went through, so the error is that of a later one
        obtain hrest | ⟨_, _, hpure⟩ := bind_eq_error.mp hrest
        · obtain ⟨earlier, x', later, rfl, hearlier, hx'⟩ := ih.mp hrest
          exact ⟨x :: earlier, x', later, rfl, List.forall_mem_cons.mpr ⟨⟨y, hy⟩, hearlier⟩, hx'⟩
        · cases hpure
    · rintro ⟨earlier, x', later, hsplit, hearlier, hx'⟩
      cases earlier with
      | nil =>
        obtain ⟨rfl, -⟩ := List.cons.inj hsplit
        exact .inl hx'
      | cons first earlier =>
        obtain ⟨rfl, rfl⟩ := List.cons.inj hsplit
        obtain ⟨⟨y, hy⟩, hbefore⟩ := List.forall_mem_cons.mp hearlier
        have hrest := ih.mpr ⟨earlier, x', later, rfl, hbefore, hx'⟩
        exact .inr ⟨y, hy, bind_eq_error.mpr (.inl hrest)⟩

/-- A list is worked through to the end exactly if no element fails. -/
theorem exists_mapM_eq_ok {f : α → Except ε β} {xs : List α} :
    (∃ ys, xs.mapM f = .ok ys) ↔ ∀ x ∈ xs, ∃ y, f x = .ok y := by
  constructor
  · rintro ⟨ys, h⟩ x hx
    have hpairs := mapM_eq_ok h
    clear h
    induction hpairs with
    | nil => cases hx
    | cons hone _ ih =>
      rcases List.mem_cons.mp hx with rfl | hx
      · exact ⟨_, hone⟩
      · exact ih hx
  · intro h
    cases hxs : xs.mapM f with
    | ok ys => exact ⟨ys, rfl⟩
    | error e =>
      -- the element that failed is one of those that do not
      obtain ⟨earlier, x, later, rfl, _, hx⟩ := mapM_eq_error.mp hxs
      obtain ⟨y, hy⟩ := h x (by simp)
      rw [hx] at hy
      cases hy

end Except

namespace Store

theorem checked_eq_ok {α : Type} {x : Except Sql.NameError α} {a : α} :
    checked x = .ok a ↔ x = .ok a := by
  cases x with
  | error e => constructor <;> (intro h; cases h)
  | ok b => constructor <;> (intro h; cases h; rfl)

theorem checked_eq_error {α : Type} {x : Except Sql.NameError α} {e : StoreError} :
    checked x = .error e ↔ ∃ cause, x = .error cause ∧ e = .validation cause := by
  cases x <;> simp [checked, Except.mapError, eq_comm]

end Store

namespace Sql

/-! ## Names and casts -/

theorem Identifier.ofName_eq_ok {name : String} {i : Identifier} :
    Identifier.ofName name = .ok i ↔ i.name = name := by
  unfold Identifier.ofName
  constructor
  · intro h
    split at h
    · cases h; rfl
    · cases h
  · rintro rfl
    -- an identifier carries its acceptance, so the check cannot turn it down
    have hacc := i.accepted
    split
    · rfl
    · rename_i e he
      rw [hacc] at he
      cases he

theorem Identifier.ofName_eq_error {name : String} {e : NameError} :
    ofName name = .error e ↔ rejection? name = some e := by
  unfold ofName
  split
  · next h => simp [h]
  · next e' h => simp [h]

theorem ColumnType.ofName_eq_ok {name : String} {t : ColumnType} :
    ColumnType.ofName name = .ok t ↔ t.name = name := by
  unfold ColumnType.ofName
  constructor
  · intro h
    split at h
    · cases h; rfl
    · cases h
  · rintro rfl
    rw [dif_pos t.usable]

/-- An accepted cast is the type registered for the column, and there is none exactly where no type
is registered. -/
theorem castOf_eq_ok {types : Keyed String} {column : String} {cast : Option ColumnType} :
    castOf types column = .ok cast ↔ cast.map (·.name) = Keyed.get? column types := by
  unfold castOf
  split
  · rename_i hnone
    rw [hnone]
    constructor
    · intro h; cases h; rfl
    · intro h
      have : cast = none := by simpa using h
      rw [this]
  · rename_i name hsome
    rw [hsome]
    constructor
    · intro h
      obtain ⟨t, ht, h⟩ := bind_eq_ok.mp h
      cases h
      rw [Option.map_some, ColumnType.ofName_eq_ok.mp ht]
    · intro h
      -- the cast has the registered name, and it is usable because it is a type's
      obtain ⟨t, rfl, ht⟩ := Option.map_eq_some_iff.mp h
      exact bind_eq_ok.mpr ⟨t, ColumnType.ofName_eq_ok.mpr ht, rfl⟩

/-- A cast is refused if a type is registered and cannot be cast to. -/
theorem castOf_eq_error {types : Keyed String} {column : String} {e : NameError} :
    castOf types column = .error e ↔ ∃ type, Keyed.get? column types = some type ∧
      ColumnType.isUsable type = false ∧ e = .badType type := by
  unfold castOf
  cases hget : Keyed.get? column types with
  | none => simp
  | some type =>
    have hcast : ColumnType.ofName type = .error e ↔
        ColumnType.isUsable type = false ∧ e = .badType type := by
      unfold ColumnType.ofName
      split
      · next husable => simp [husable]
      · next husable => simp [husable, eq_comm]
    simp [bind_eq_error, hcast, pure, Except.pure]

/-! ## What a condition asks -/

/-- The four kinds of conditions: whether a column is null, a comparison with one value, membership
in a list that is not empty, and what holds for every row or for none. -/
inductive Question where
  | nullity (isNull : Bool)
  | compare (comparison : Comparison) (value : Json)
  | membership (isIn : Bool) (value : Json) (values : List Json)
  | constant (holds : Bool)

/-- What a condition asks. Equality without a value asks for null. Membership in an empty list holds
for nothing, and its negation for everything. An ordering without a value, and membership in what is
no list, hold for nothing. -/
def Condition.question (c : Condition) : Question :=
  match c.operator, c.value with
  | .isNull, _ => .nullity true
  | .isNotNull, _ => .nullity false
  | .compare .eq, none => .nullity true
  | .compare .ne, none => .nullity false
  | .compare _, none => .constant false
  | .compare comparison, some value => .compare comparison value
  | .isIn, some (.array (value :: values)) => .membership true value values
  | .isNotIn, some (.array (value :: values)) => .membership false value values
  | .isNotIn, some (.array []) => .constant true
  | .isIn, _ => .constant false
  | .isNotIn, _ => .constant false

/-- The predicate of a question about a column. -/
def Question.check (types : Keyed String) (column : Identifier) :
    Question → Except NameError Predicate
  | .nullity isNull => .ok (.nullity column isNull)
  | .compare comparison value => do
    return .compare column comparison ⟨← castOf types column.name, value⟩
  | .membership isIn value values => do
    let cast ← castOf types column.name
    return .membership column isIn ((value :: values).map (⟨cast, ·⟩))
  | .constant holds => .ok (.constant holds)

/-- What has been checked of a question: a value is bound only behind a cast that was accepted. -/
theorem Question.check_cases {types : Keyed String} {column : Identifier} {q : Question}
    {p : Predicate} (h : q.check types column = .ok p) :
    (∃ isNull, q = .nullity isNull ∧ p = .nullity column isNull) ∨
      (∃ holds, q = .constant holds ∧ p = .constant holds) ∨
      (∃ comparison value cast, q = .compare comparison value ∧
        castOf types column.name = .ok cast ∧ p = .compare column comparison ⟨cast, value⟩) ∨
      ∃ isIn value values cast, q = .membership isIn value values ∧
        castOf types column.name = .ok cast ∧
        p = .membership column isIn ((value :: values).map (⟨cast, ·⟩)) := by
  cases q with
  | nullity isNull =>
    cases h
    exact .inl ⟨isNull, rfl, rfl⟩
  | constant holds =>
    cases h
    exact .inr (.inl ⟨holds, rfl, rfl⟩)
  | compare comparison value =>
    obtain ⟨cast, hcast, h⟩ := bind_eq_ok.mp h
    cases h
    exact .inr (.inr (.inl ⟨comparison, value, cast, rfl, hcast, rfl⟩))
  | membership isIn value values =>
    obtain ⟨cast, hcast, h⟩ := bind_eq_ok.mp h
    cases h
    exact .inr (.inr (.inr ⟨isIn, value, values, cast, rfl, hcast, rfl⟩))

/-- **Conditions by their questions.** The only case split over operators and values. -/
theorem Condition.check_eq (types : Keyed String) (c : Condition) :
    c.check types =
      (Identifier.ofName c.field >>= fun column => c.question.check types column) := by
  obtain ⟨field, operator, value⟩ := c
  cases hname : Identifier.ofName field with
  | error e => rw [Condition.check, hname]; rfl
  | ok column =>
    obtain rfl : column.name = field := Identifier.ofName_eq_ok.mp hname
    rw [Condition.check, hname]
    cases operator with
    | compare comparison => cases value <;> cases comparison <;> rfl
    | isIn =>
      cases value with
      | none => rfl
      | some value =>
        cases value with
        | array items => cases items <;> rfl
        | _ => rfl
    | isNotIn =>
      cases value with
      | none => rfl
      | some value =>
        cases value with
        | array items => cases items <;> rfl
        | _ => rfl
    | isNull => rfl
    | isNotNull => rfl

/-- With a member, groups of the two junctions are checked alike. -/
theorem Filter.check_group (types : Keyed String) (j : Junction) (f : Filter) (fs : List Filter) :
    Filter.check types (.group j (f :: fs)) = (do
      let first ← Filter.check types f
      let others ← Filter.checkAll types fs
      return .group j (first :: others)) := by
  cases j <;> rfl

/-! ## Induction over a check that succeeds -/

/-- What an induction over checked filters has to show: that `P` holds of a checked condition and of
the two empty groups, and passes through `Q` from the members of a group to the group. -/
structure CheckInvariant (types : Keyed String) (P : Filter → Predicate → Prop)
    (Q : List Filter → List Predicate → Prop) : Prop where
  condition : ∀ (c : Condition) (column : Identifier) (p : Predicate), column.name = c.field →
    c.question.check types column = .ok p → P (.condition c) p
  all : P (.group .and []) (.constant true)
  any : P (.group .or []) (.constant false)
  group : ∀ (j : Junction) (f : Filter) (fs : List Filter) (p : Predicate) (ps : List Predicate),
    Q (f :: fs) (p :: ps) → P (.group j (f :: fs)) (.group j (p :: ps))
  nil : Q [] []
  cons : ∀ (f : Filter) (fs : List Filter) (p : Predicate) (ps : List Predicate),
    P f p → Q fs ps → Q (f :: fs) (p :: ps)

namespace CheckInvariant

variable {types : Keyed String} {P : Filter → Predicate → Prop}
  {Q : List Filter → List Predicate → Prop}

mutual

/-- **Induction over a checked filter.** -/
theorem check (inv : CheckInvariant types P Q) :
    ∀ (f : Filter) (p : Predicate), f.check types = .ok p → P f p
  | .condition c, p, h => by
    rw [Filter.check, Condition.check_eq] at h
    obtain ⟨column, hname, h⟩ := bind_eq_ok.mp h
    exact inv.condition c column p (Identifier.ofName_eq_ok.mp hname) h
  | .group .and [], p, h => by
    rw [Filter.check] at h
    cases h
    exact inv.all
  | .group .or [], p, h => by
    rw [Filter.check] at h
    cases h
    exact inv.any
  | .group j (f :: fs), p, h => by
    rw [Filter.check_group] at h
    obtain ⟨first, hf, h⟩ := bind_eq_ok.mp h
    obtain ⟨others, hfs, h⟩ := bind_eq_ok.mp h
    cases h
    exact inv.group j f fs first others
      (inv.cons f fs first others (check inv f first hf) (checkAll inv fs others hfs))

/-- The same induction, over a list of filters. -/
theorem checkAll (inv : CheckInvariant types P Q) :
    ∀ (fs : List Filter) (ps : List Predicate), Filter.checkAll types fs = .ok ps → Q fs ps
  | [], ps, h => by
    rw [Filter.checkAll] at h
    cases h
    exact inv.nil
  | f :: fs, ps, h => by
    rw [Filter.checkAll] at h
    obtain ⟨first, hf, h⟩ := bind_eq_ok.mp h
    obtain ⟨others, hfs, h⟩ := bind_eq_ok.mp h
    cases h
    exact inv.cons f fs first others (check inv f first hf) (checkAll inv fs others hfs)

end

end CheckInvariant

end Sql

/-! ## Statements -/

namespace Store

/-- The columns of an insertion are checked one for one. -/
theorem Insert.slots_names {types : Keyed String} {values : Assignments Json}
    {slots : List (Sql.Identifier × Sql.Slot)} (h : Insert.slots types values = .ok slots) :
    List.Forall₂ (fun (v : String × Json) (s : Sql.Identifier × Sql.Slot) => s.1.name = v.1)
      values slots := by
  refine (mapM_eq_ok h).imp fun v s hone => ?_
  obtain ⟨i, hi, hone⟩ := bind_eq_ok.mp hone
  obtain ⟨cast, _, hone⟩ := bind_eq_ok.mp hone
  cases hone
  exact Sql.Identifier.ofName_eq_ok.mp hi

/-- The columns of an update are checked one for one. -/
theorem Update.assigned_names {types : Keyed String} {set : Assignments NewValue}
    {assignments : List (Sql.Identifier × Sql.Assigned)}
    (h : Update.assigned types set = .ok assignments) :
    List.Forall₂ (fun (v : String × NewValue) (a : Sql.Identifier × Sql.Assigned) =>
      a.1.name = v.1) set assignments := by
  refine (mapM_eq_ok h).imp fun v a hone => ?_
  obtain ⟨i, hi, hone⟩ := bind_eq_ok.mp hone
  obtain ⟨column, value⟩ := v
  cases value with
  | value v =>
    obtain ⟨cast, _, hone⟩ := bind_eq_ok.mp hone
    cases hone
    exact Sql.Identifier.ofName_eq_ok.mp hi
  | expression sql =>
    cases hone
    exact Sql.Identifier.ofName_eq_ok.mp hi

/-- What a selection has checked. -/
theorem Select.statement_cases {s : Select} {statement : Sql.Statement}
    (h : s.statement = .ok statement) :
    ∃ table columns conditions order, Sql.Identifier.ofName s.table = .ok table ∧
      Sql.Columns.ofNames s.columns = .ok columns ∧
      Sql.Filter.checkAll s.query.columnTypes s.query.filters = .ok conditions ∧
      Sql.SortTerm.ofNames s.query.order = .ok order ∧
      statement = .select table columns conditions order s.query.page := by
  obtain ⟨table, htable, h⟩ := bind_eq_ok.mp h
  obtain ⟨columns, hcolumns, h⟩ := bind_eq_ok.mp h
  obtain ⟨conditions, hconditions, h⟩ := bind_eq_ok.mp h
  obtain ⟨order, horder, h⟩ := bind_eq_ok.mp h
  cases h
  exact ⟨table, columns, conditions, order, checked_eq_ok.mp htable, checked_eq_ok.mp hcolumns,
    checked_eq_ok.mp hconditions, checked_eq_ok.mp horder, rfl⟩

/-- What the count of a selection has checked. -/
theorem Select.countStatement_cases {s : Select} {statement : Sql.Statement}
    (h : s.countStatement = .ok statement) :
    ∃ table conditions, Sql.Identifier.ofName s.table = .ok table ∧
      Sql.Filter.checkAll s.query.columnTypes s.query.filters = .ok conditions ∧
      statement = .count table conditions := by
  obtain ⟨table, htable, h⟩ := bind_eq_ok.mp h
  obtain ⟨conditions, hconditions, h⟩ := bind_eq_ok.mp h
  cases h
  exact ⟨table, conditions, checked_eq_ok.mp htable, checked_eq_ok.mp hconditions, rfl⟩

/-- What an insertion has checked. -/
theorem Insert.statement_cases {i : Insert} {statement : Sql.Statement}
    (h : i.statement = .ok statement) :
    ∃ table returning values, Sql.Identifier.ofName i.table = .ok table ∧
      returningColumns i.returning = .ok returning ∧
      Insert.slots i.columnTypes i.values = .ok values ∧
      statement = .insert table values returning := by
  obtain ⟨table, htable, h⟩ := bind_eq_ok.mp h
  obtain ⟨returning, hreturning, h⟩ := bind_eq_ok.mp h
  obtain ⟨values, hvalues, h⟩ := bind_eq_ok.mp h
  cases h
  exact ⟨table, returning, values, checked_eq_ok.mp htable, checked_eq_ok.mp hreturning,
    checked_eq_ok.mp hvalues, rfl⟩

/-- What an update has checked: it sets a column and has a filter. -/
theorem Update.statement_cases {u : Update} {statement : Sql.Statement}
    (h : u.statement = .ok statement) :
    ∃ table assignments conditions returning, Sql.Identifier.ofName u.table = .ok table ∧
      u.set ≠ [] ∧ u.filters ≠ [] ∧
      Update.assigned u.columnTypes u.set = .ok assignments ∧
      Sql.Filter.checkAll u.columnTypes u.filters = .ok conditions ∧
      returningColumns u.returning = .ok returning ∧
      statement = .update table assignments conditions returning := by
  obtain ⟨table, htable, h⟩ := bind_eq_ok.mp h
  -- both refusals come before any column is checked
  by_cases hset : u.set = []
  · simp only [hset, List.isEmpty_nil, if_true] at h
    cases h
  by_cases hfilters : u.filters = []
  · simp only [List.isEmpty_eq_false_iff.mpr hset, hfilters, List.isEmpty_nil, if_true] at h
    cases h
  simp only [List.isEmpty_eq_false_iff.mpr hset, List.isEmpty_eq_false_iff.mpr hfilters] at h
  obtain ⟨assignments, hassignments, h⟩ := bind_eq_ok.mp h
  obtain ⟨conditions, hconditions, h⟩ := bind_eq_ok.mp h
  obtain ⟨returning, hreturning, h⟩ := bind_eq_ok.mp h
  cases h
  exact ⟨table, assignments, conditions, returning, checked_eq_ok.mp htable, hset, hfilters,
    checked_eq_ok.mp hassignments, checked_eq_ok.mp hconditions, checked_eq_ok.mp hreturning, rfl⟩

/-- What a deletion has checked: it has a filter. -/
theorem Delete.statement_cases {d : Delete} {statement : Sql.Statement}
    (h : d.statement = .ok statement) :
    ∃ table conditions returning, Sql.Identifier.ofName d.table = .ok table ∧
      d.filters ≠ [] ∧
      Sql.Filter.checkAll d.columnTypes d.filters = .ok conditions ∧
      returningColumns d.returning = .ok returning ∧
      statement = .delete table conditions returning := by
  obtain ⟨table, htable, h⟩ := bind_eq_ok.mp h
  by_cases hfilters : d.filters = []
  · simp only [hfilters, List.isEmpty_nil, if_true] at h
    cases h
  simp only [List.isEmpty_eq_false_iff.mpr hfilters] at h
  obtain ⟨conditions, hconditions, h⟩ := bind_eq_ok.mp h
  obtain ⟨returning, hreturning, h⟩ := bind_eq_ok.mp h
  cases h
  exact ⟨table, conditions, returning, checked_eq_ok.mp htable, hfilters,
    checked_eq_ok.mp hconditions, checked_eq_ok.mp hreturning, rfl⟩

end Store

end Rowgate
