import Mathlib.Data.List.Nodup
import Mathlib.Data.Nat.Find
import Rowgate.Proofs.Bytes
import Rowgate.Proofs.Draft
/-
Assignments as an insertion order.

A step on a write assigns columns or leaves one out: each is a `Change`, and a step that takes
columns from a model makes one change for each member that is not null, in the order of their keys.
What the changes leave is told by their places alone. A column is held where it was assigned and not
left out behind that; it holds what was assigned last; and it stands where it was first assigned of
those places that no later change undoes (`KeepsOrder`). So no column stands twice, and the text of
a write names the columns that it fills once each.

The main result is `Change.writes_keep_order`.
-/
set_option autoImplicit false

namespace Rowgate

namespace Store

/-! ## Changes and their places -/

/-- A change of the columns that are given something. -/
inductive Change (α : Type) where
  | assign (column : String) (value : α)
  | remove (column : String)

namespace Change

variable {α : Type}

/-- The column that a change is about. -/
def column : Change α → String
  | .assign column _ => column
  | .remove column => column

def apply (a : Assignments α) : Change α → Assignments α
  | .assign column value => a.assign column value
  | .remove column => a.remove column

/-- The change at a place assigns the column, and none behind it leaves the column out. -/
def Stays (changes : List (Change α)) (column : String) (i : Nat) : Prop :=
  (∃ value, changes[i]? = some (.assign column value)) ∧
    ∀ j, i < j → changes[j]? ≠ some (.remove column)

/-- The first place from which the column stays. -/
def Begins (changes : List (Change α)) (column : String) (i : Nat) : Prop :=
  Stays changes column i ∧ ∀ j, j < i → ¬ Stays changes column j

/-- The change at a place assigns the value to the column, and no later one is about the column. -/
def Latest (changes : List (Change α)) (column : String) (value : α) (i : Nat) : Prop :=
  changes[i]? = some (.assign column value) ∧
    ∀ j change, i < j → changes[j]? = some change → change.column ≠ column

/-- **Columns in insertion order.** Each column stands once, and stands there if it was assigned and
not left out behind that. It has what was assigned last, and columns stand in the order of the
places from which they stay. -/
structure KeepsOrder (changes : List (Change α)) (a : Assignments α) : Prop where
  nodup : (a.map (·.1)).Nodup
  held : ∀ column, column ∈ a.map (·.1) ↔ ∃ i, Stays changes column i
  latest : ∀ column value, (column, value) ∈ a → ∃ i, Latest changes column value i
  ordered : (a.map (·.1)).Pairwise fun c c' =>
    ∃ i i', Begins changes c i ∧ Begins changes c' i' ∧ i < i'

/-! ## One more change -/

variable {changes : List (Change α)} {change : Change α} {c : String} {i : Nat}

theorem getElem?_snoc {β : Type} {xs : List β} {x y : β} {i : Nat} :
    (xs ++ [x])[i]? = some y ↔ xs[i]? = some y ∨ (i = xs.length ∧ x = y) := by
  by_cases hi : i < xs.length
  · rw [List.getElem?_append_left hi]
    have hne : i ≠ xs.length := by omega
    simp [hne]
  · rw [List.getElem?_append_right (by omega), List.getElem?_eq_none (by omega : xs.length ≤ i)]
    by_cases heq : i = xs.length
    · simp [heq]
    · rw [List.getElem?_eq_none (by simp only [List.length_singleton]; omega)]
      simp [heq]

/-- The places from which a column stays are the old ones, unless it is left out now, and the new
one if it is assigned now. -/
theorem stays_snoc : Stays (changes ++ [change]) c i ↔
    (Stays changes c i ∧ change ≠ .remove c) ∨
      (i = changes.length ∧ ∃ value, change = .assign c value) := by
  constructor
  · rintro ⟨⟨value, hvalue⟩, hkept⟩
    rcases getElem?_snoc.mp hvalue with hold | ⟨rfl, rfl⟩
    · have hi : i < changes.length := (List.getElem?_eq_some_iff.mp hold).1
      refine .inl ⟨⟨⟨value, hold⟩, fun j hj hremove => ?_⟩, fun hremove => ?_⟩
      · exact hkept j hj (getElem?_snoc.mpr (.inl hremove))
      · exact hkept changes.length hi (getElem?_snoc.mpr (.inr ⟨rfl, hremove⟩))
    · exact .inr ⟨rfl, value, rfl⟩
  · rintro (⟨⟨⟨value, hvalue⟩, hkept⟩, hne⟩ | ⟨rfl, value, rfl⟩)
    · refine ⟨⟨value, getElem?_snoc.mpr (.inl hvalue)⟩, fun j hj hremove => ?_⟩
      rcases getElem?_snoc.mp hremove with hold | ⟨-, hnew⟩
      · exact hkept j hj hold
      · exact hne hnew
    · refine ⟨⟨value, getElem?_snoc.mpr (.inr ⟨rfl, rfl⟩)⟩, fun j hj hremove => ?_⟩
      rcases getElem?_snoc.mp hremove with hold | ⟨rfl, -⟩
      · have hlt : j < changes.length := (List.getElem?_eq_some_iff.mp hold).1
        omega
      · omega

theorem Stays.lt_length (h : Stays changes c i) : i < changes.length := by
  obtain ⟨⟨value, hvalue⟩, -⟩ := h
  exact (List.getElem?_eq_some_iff.mp hvalue).1

/-- A column goes on staying from the place where it began, unless it is left out now. -/
theorem Begins.snoc (h : Begins changes c i) (hne : change ≠ .remove c) :
    Begins (changes ++ [change]) c i := by
  obtain ⟨hstays, hfirst⟩ := h
  refine ⟨stays_snoc.mpr (.inl ⟨hstays, hne⟩), fun j hj hbefore => ?_⟩
  rcases stays_snoc.mp hbefore with ⟨hold, -⟩ | ⟨rfl, -⟩
  · exact hfirst j hj hold
  · have hlt := hstays.lt_length
    omega

theorem exists_begins (h : ∃ i, Stays changes c i) : ∃ i, Begins changes c i := by
  classical
  exact ⟨Nat.find h, Nat.find_spec h, fun j hj => Nat.find_min h hj⟩

/-- What was assigned last stays so under changes of other columns. -/
theorem Latest.snoc {value : α} (h : Latest changes c value i) (hne : change.column ≠ c) :
    Latest (changes ++ [change]) c value i := by
  refine ⟨getElem?_snoc.mpr (.inl h.1), fun j other hj hother => ?_⟩
  rcases getElem?_snoc.mp hother with hold | ⟨-, rfl⟩
  · exact h.2 j other hj hold
  · exact hne

theorem latest_snoc (value : α) : Latest (changes ++ [.assign c value]) c value changes.length := by
  refine ⟨getElem?_snoc.mpr (.inr ⟨rfl, rfl⟩), fun j other hj hother => ?_⟩
  rcases getElem?_snoc.mp hother with hold | ⟨rfl, -⟩
  · have hlt : j < changes.length := (List.getElem?_eq_some_iff.mp hold).1
    omega
  · omega

end Change

/-! ## What one change does to the columns -/

namespace Assignments

variable {α : Type} {column : String} {a : Assignments α}

/-- A column that is there is assigned at its place. -/
theorem names_assign_of_mem (value : α) (h : column ∈ a.map (·.1)) :
    (a.assign column value).map (·.1) = a.map (·.1) := by
  induction a with
  | nil => contradiction
  | cons first rest ih =>
    obtain ⟨c, v⟩ := first
    rw [assign]
    by_cases hc : c = column
    · rw [if_pos hc]
      rfl
    · rw [if_neg hc, List.map_cons, List.map_cons, ih]
      exact (List.mem_cons.mp h).resolve_left fun heq => hc heq.symm

/-- A column that is not there is put last. -/
theorem assign_of_notMem (value : α) (h : column ∉ a.map (·.1)) :
    a.assign column value = a ++ [(column, value)] := by
  induction a with
  | nil => rfl
  | cons first rest ih =>
    obtain ⟨c, v⟩ := first
    rw [List.map_cons, List.mem_cons, not_or] at h
    rw [assign, if_neg fun hc => h.1 hc.symm, ih h.2]
    rfl

theorem mem_assign_self (column : String) (value : α) (a : Assignments α) :
    (column, value) ∈ a.assign column value := by
  induction a with
  | nil => exact List.mem_singleton_self _
  | cons first rest ih =>
    obtain ⟨c, v⟩ := first
    rw [assign]
    by_cases hc : c = column
    · rw [if_pos hc, hc]
      exact List.mem_cons_self
    · rw [if_neg hc]
      exact List.mem_cons_of_mem _ ih

theorem names_remove (column : String) (a : Assignments α) :
    (a.remove column).map (·.1) = (a.map (·.1)).filter (· != column) := by
  rw [remove, List.filter_map]
  rfl

end Assignments

/-! ## All changes -/

namespace Change

variable {α : Type}

theorem KeepsOrder.assign {changes : List (Change α)} {a : Assignments α}
    (h : KeepsOrder changes a) (column : String) (value : α) :
    KeepsOrder (changes ++ [.assign column value]) (a.assign column value) := by
  have hne (c : String) : Change.assign column value ≠ .remove c := fun heq => by contradiction
  have hordered : (a.map (·.1)).Pairwise fun c c' =>
      ∃ i i', Begins (changes ++ [.assign column value]) c i ∧
        Begins (changes ++ [.assign column value]) c' i' ∧ i < i' := by
    refine h.ordered.imp ?_
    rintro c c' ⟨i, i', hc, hc', hlt⟩
    exact ⟨i, i', hc.snoc (hne c), hc'.snoc (hne c'), hlt⟩
  have hnodup : ((a.assign column value).map (·.1)).Nodup := by
    by_cases hmem : column ∈ a.map (·.1)
    · rw [Assignments.names_assign_of_mem value hmem]
      exact h.nodup
    · rw [Assignments.assign_of_notMem value hmem, List.map_append]
      exact h.nodup.append (List.nodup_singleton _) (List.disjoint_singleton.mpr hmem)
  refine ⟨hnodup, fun c => ?_, fun c v hmem => ?_, ?_⟩
  · by_cases hmem : column ∈ a.map (·.1)
    · -- the column was there already, so nothing new is
      rw [Assignments.names_assign_of_mem value hmem, h.held]
      constructor
      · rintro ⟨i, hi⟩
        exact ⟨i, stays_snoc.mpr (.inl ⟨hi, hne c⟩)⟩
      · rintro ⟨i, hi⟩
        rcases stays_snoc.mp hi with ⟨hold, -⟩ | ⟨-, v, heq⟩
        · exact ⟨i, hold⟩
        · obtain rfl := (Change.assign.inj heq).1
          exact (h.held column).mp hmem
    · rw [Assignments.assign_of_notMem value hmem, List.map_append, List.mem_append, h.held]
      constructor
      · rintro (⟨i, hi⟩ | hc)
        · exact ⟨i, stays_snoc.mpr (.inl ⟨hi, hne c⟩)⟩
        · obtain rfl : c = column := List.mem_singleton.mp hc
          exact ⟨changes.length, stays_snoc.mpr (.inr ⟨rfl, value, rfl⟩)⟩
      · rintro ⟨i, hi⟩
        rcases stays_snoc.mp hi with ⟨hold, -⟩ | ⟨-, v, heq⟩
        · exact .inl ⟨i, hold⟩
        · exact .inr (List.mem_singleton.mpr (Change.assign.inj heq).1.symm)
  · by_cases hc : c = column
    · -- the column stands once, so what it holds is what was assigned now
      subst hc
      obtain ⟨-, rfl⟩ := Prod.mk.inj (List.inj_on_of_nodup_map hnodup hmem
        (Assignments.mem_assign_self c value a) rfl)
      exact ⟨changes.length, latest_snoc v⟩
    · rcases Assignments.mem_assign hmem with heq | hold
      · exact absurd (Prod.mk.inj heq).1 hc
      · obtain ⟨i, hi⟩ := h.latest c v hold
        exact ⟨i, hi.snoc fun heq => hc heq.symm⟩
  · by_cases hmem : column ∈ a.map (·.1)
    · rw [Assignments.names_assign_of_mem value hmem]
      exact hordered
    · rw [Assignments.assign_of_notMem value hmem, List.map_append]
      refine List.pairwise_append.mpr ⟨hordered, List.pairwise_singleton _ _, fun c hc c' hc' => ?_⟩
      obtain rfl : c' = column := List.mem_singleton.mp hc'
      obtain ⟨i, hi⟩ := exists_begins ((h.held c).mp hc)
      have hbegins : Begins (changes ++ [.assign c' value]) c' changes.length := by
        refine ⟨stays_snoc.mpr (.inr ⟨rfl, value, rfl⟩), fun j hj hbefore => ?_⟩
        rcases stays_snoc.mp hbefore with ⟨hold, -⟩ | ⟨rfl, -⟩
        · exact hmem ((h.held c').mpr ⟨j, hold⟩)
        · omega
      exact ⟨i, changes.length, hi.snoc (hne c), hbegins, hi.1.lt_length⟩

theorem KeepsOrder.remove {changes : List (Change α)} {a : Assignments α}
    (h : KeepsOrder changes a) (column : String) :
    KeepsOrder (changes ++ [.remove column]) (a.remove column) := by
  have hother {c : String} (hc : c ≠ column) : (Change.remove column : Change α) ≠ .remove c :=
    fun heq => hc (Change.remove.inj heq).symm
  refine ⟨?_, fun c => ?_, fun c v hmem => ?_, ?_⟩
  · rw [Assignments.names_remove]
    exact h.nodup.filter _
  · rw [Assignments.names_remove, List.mem_filter, h.held, bne_iff_ne]
    constructor
    · rintro ⟨⟨i, hi⟩, hc⟩
      exact ⟨i, stays_snoc.mpr (.inl ⟨hi, hother hc⟩)⟩
    · rintro ⟨i, hi⟩
      rcases stays_snoc.mp hi with ⟨hold, hne⟩ | ⟨-, v, heq⟩
      · exact ⟨⟨i, hold⟩, fun hc => hne (hc ▸ rfl)⟩
      · contradiction
  · obtain ⟨hold, hc⟩ := List.mem_filter.mp hmem
    obtain ⟨i, hi⟩ := h.latest c v hold
    exact ⟨i, hi.snoc fun heq => bne_iff_ne.mp hc heq.symm⟩
  · rw [Assignments.names_remove]
    refine (h.ordered.filter _).imp_of_mem ?_
    rintro c c' hc hc' ⟨i, i', hi, hi', hlt⟩
    have hcolumn := bne_iff_ne.mp (List.mem_filter.mp hc).2
    have hcolumn' := bne_iff_ne.mp (List.mem_filter.mp hc').2
    exact ⟨i, i', hi.snoc (hother hcolumn), hi'.snoc (hother hcolumn'), hlt⟩

/-- **Changes keep insertion order.** -/
theorem keepsOrder (changes : List (Change α)) : KeepsOrder changes (changes.foldl apply []) := by
  induction changes using List.reverseRecOn with
  | nil => exact ⟨List.nodup_nil, by simp [Stays], by simp, List.Pairwise.nil⟩
  | append_singleton changes change ih =>
    rw [List.foldl_append]
    cases change with
    | assign column value => exact ih.assign column value
    | remove column => exact ih.remove column

end Change

/-! ## The changes that steps make -/

/-- The members of a model that are not null. -/
def Model.fields : Model → List (String × Json)
  | .ok (.object members) => members.filter fun m => !m.2.isNull
  | _ => []

/-- What a step changes of the values. -/
def Insert.Step.changes : Insert.Step → List (Change Json)
  | .value column v => [.assign column v]
  | .valuesFrom model => model.fields.map fun (column, v) => .assign column v
  | _ => []

/-- What a step changes of the assignments. -/
def Update.Step.changes : Update.Step → List (Change NewValue)
  | .set column value => [.assign column (.value value)]
  | .setExpression column sql => [.assign column (.expression sql)]
  | .setFrom model => model.fields.map fun (column, v) => .assign column (.value v)
  | .remove column => [.remove column]
  | _ => []

/-- The columns that are taken from a model are its members that are not null. -/
theorem Model.columns_eq_fields {table : String} {model : Model} {columns : List (String × Json)}
    (h : model.columns table = .ok columns) : columns = model.fields := by
  cases model with
  | error text => cases h
  | ok value =>
    cases value with
    | object members => cases h; rfl
    | _ => cases h

/-- The fields of an object whose keys ascend, as those of any object that was read, stand in the
order of the bytes of their keys. -/
theorem Model.fields_ascending {members : List (String × Json)} (h : Keyed.Ascending members) :
    (Model.fields (.ok (.object members))).Pairwise fun a b =>
      Utf8.encode a.1 < Utf8.encode b.1 := by
  refine (List.Pairwise.filter _ h).imp ?_
  intro a b hlt
  exact (Utf8.encode_lt_iff _ _).mpr hlt

theorem Insert.apply_values {i i' : Insert} {step : Insert.Step} (h : i.apply step = .ok i') :
    i'.values = step.changes.foldl Change.apply i.values := by
  cases step with
  | valuesFrom model =>
    obtain ⟨columns, hcolumns, h⟩ := bind_eq_ok.mp h
    obtain rfl := Model.columns_eq_fields hcolumns
    cases h
    rw [Step.changes, List.foldl_map]
    rfl
  | _ => cases h; rfl

theorem Update.apply_set {u u' : Update} {step : Update.Step} (h : u.apply step = .ok u') :
    u'.set = step.changes.foldl Change.apply u.set := by
  cases step with
  | setFrom model =>
    obtain ⟨columns, hcolumns, h⟩ := bind_eq_ok.mp h
    obtain rfl := Model.columns_eq_fields hcolumns
    cases h
    rw [Step.changes, Assignments.assignAll, List.foldl_map, List.foldl_map]
    rfl
  | _ => cases h; rfl

end Store

/-! ## The columns of a text -/

namespace Sql

/-- The text of a write that fills the columns, in their order. -/
inductive Fills : String → List String → Prop where
  | defaults (table : Identifier) (rest : String) :
    Fills ("INSERT INTO " ++ table.quoted ++ " DEFAULT VALUES" ++ rest) []
  | insert (table : Identifier) (columns : List Identifier) (rest : String) :
    Fills ("INSERT INTO " ++ table.quoted ++ " (" ++
      String.intercalate ", " (columns.map Identifier.quoted) ++ ") VALUES (" ++ rest)
      (columns.map (·.name))
  | update (table : Identifier) (assigned : List (Identifier × String)) (rest : String) :
    Fills ("UPDATE " ++ table.quoted ++ " SET " ++
      String.intercalate ", " (assigned.map fun a => a.1.quoted ++ " = " ++ a.2) ++ rest)
      (assigned.map (·.1.name))

theorem exists_joinParts {head : String} (parts : List String) (hhead : head ≠ "") :
    ∃ rest, joinParts (head :: parts) = head ++ rest := by
  refine ⟨String.ofList (parts.flatMap fun part =>
    if part.isEmpty then [] else ' ' :: part.toList), ?_⟩
  rw [← String.toList_inj, toList_joinParts hhead, String.toList_append, String.toList_ofList]

/-- The texts of assignments, each as its column with what it is set to. -/
theorem Assigned.exists_texts (first : Nat) (assignments : List (Identifier × Assigned)) :
    ∃ assigned : List (Identifier × String), assigned.map (·.1) = assignments.map (·.1) ∧
      texts first assignments = assigned.map fun a => a.1.quoted ++ " = " ++ a.2 := by
  induction assignments generalizing first with
  | nil => exact ⟨[], rfl, rfl⟩
  | cons a rest ih =>
    obtain ⟨column, value⟩ := a
    obtain ⟨assigned, hcolumns, htexts⟩ := ih (first + value.slots.length)
    refine ⟨(column, value.text first) :: assigned, ?_, ?_⟩
    · rw [List.map_cons, List.map_cons, hcolumns]
    · rw [texts, htexts, List.map_cons]

theorem Statement.fills_insert (table : Identifier) (values : List (Identifier × Slot))
    (returning : Option Columns) :
    Fills (Statement.insert table values returning).text (values.map (·.1.name)) := by
  cases values with
  | nil =>
    have hhead : "INSERT INTO " ++ table.quoted ++ " DEFAULT VALUES" ≠ "" := by simp
    obtain ⟨rest, hrest⟩ := exists_joinParts [returningClause returning] hhead
    rw [text, hrest]
    exact .defaults table rest
  | cons value others =>
    let columns := String.intercalate ", " ((value :: others).map fun v => v.1.quoted)
    let marks := String.intercalate ", " (Predicate.placeholders 1 ((value :: others).map (·.2)))
    have hhead : "INSERT INTO " ++ table.quoted ++ " (" ++ columns ++ ") VALUES (" ++ marks ++ ")" ≠
      "" := by simp
    obtain ⟨rest, hrest⟩ := exists_joinParts [returningClause returning] hhead
    have hfills := Fills.insert table ((value :: others).map (·.1)) (marks ++ ")" ++ rest)
    rw [List.map_map, List.map_map] at hfills
    rw [text, hrest]
    simp only [String.append_assoc] at hfills ⊢
    exact hfills

theorem Statement.fills_update (table : Identifier) (assignments : List (Identifier × Assigned))
    (conditions : List Predicate) (returning : Option Columns) :
    Fills (Statement.update table assignments conditions returning).text
      (assignments.map (·.1.name)) := by
  obtain ⟨assigned, hcolumns, htexts⟩ := Assigned.exists_texts 1 assignments
  have hhead : "UPDATE " ++ table.quoted ++ " SET " ++
      String.intercalate ", " (Assigned.texts 1 assignments) ≠ "" := by simp
  obtain ⟨rest, hrest⟩ := exists_joinParts
    [Predicate.whereClause (1 + (Assigned.slotsOf assignments).length) conditions,
      returningClause returning] hhead
  have hnames : assignments.map (·.1.name) = assigned.map (·.1.name) := by
    have h := congrArg (List.map Identifier.name) hcolumns
    rw [List.map_map, List.map_map] at h
    exact h.symm
  rw [text, hrest, htexts, hnames]
  exact .update table assigned rest

/-- Names that are checked one for one are the same names in the same order. -/
theorem map_names_eq {α β : Type} {f : α → String} {g : β → Identifier} {xs : List α} {ys : List β}
    (h : List.Forall₂ (fun x y => (g y).name = f x) xs ys) :
    ys.map (fun y => (g y).name) = xs.map f := by
  induction h with
  | nil => rfl
  | cons hname _ ih => rw [List.map_cons, List.map_cons, hname, ih]

end Sql

/-! ## Main result -/

namespace Store

theorem Insert.render_fills {i : Insert} {r : Sql.Rendered} (h : i.render = .ok r) :
    Sql.Fills r.text (i.values.map (·.1)) := by
  obtain ⟨s, hstatement, rfl⟩ := map_eq_ok.mp h
  obtain ⟨table, returning, values, _, _, hvalues, rfl⟩ := Insert.statement_cases hstatement
  rw [← Sql.map_names_eq (Insert.slots_names hvalues)]
  exact Sql.Statement.fills_insert table values returning

theorem Update.render_fills {u : Update} {r : Sql.Rendered} (h : u.render = .ok r) :
    Sql.Fills r.text (u.set.map (·.1)) := by
  obtain ⟨s, hstatement, rfl⟩ := map_eq_ok.mp h
  obtain ⟨table, assignments, conditions, returning, _, _, _, hassigned, _, _, rfl⟩ :=
    Update.statement_cases hstatement
  rw [← Sql.map_names_eq (Update.assigned_names hassigned)]
  exact Sql.Statement.fills_update table assignments conditions returning

/-- **Writes keep insertion order.** After any steps that do not fail, a write holds the columns
that the changes of its steps leave, in insertion order, each once; and where it renders, its text
fills these columns in this order. The fields of a model are assigned in the order of the bytes of
their keys. -/
theorem Change.writes_keep_order (table : String) :
    (∀ (steps : List Insert.Step) (i : Insert), Insert.run { table } steps = .ok i →
      KeepsOrder (steps.flatMap Insert.Step.changes) i.values ∧
      ∀ r, i.render = .ok r → Sql.Fills r.text (i.values.map (·.1))) ∧
    (∀ (steps : List Update.Step) (u : Update), Update.run { table } steps = .ok u →
      KeepsOrder (steps.flatMap Update.Step.changes) u.set ∧
      ∀ r, u.render = .ok r → Sql.Fills r.text (u.set.map (·.1))) ∧
    ∀ members, Keyed.Ascending members → (Model.fields (.ok (.object members))).Pairwise
      fun a b => Utf8.encode a.1 < Utf8.encode b.1 := by
  refine ⟨fun steps i h => ⟨?_, fun r => Insert.render_fills⟩,
    fun steps u h => ⟨?_, fun r => Update.render_fills⟩, fun members => Model.fields_ascending⟩
  · have hstep : ∀ step ∈ steps, ∀ i i' : Insert, i.apply step = .ok i' →
        i'.values = step.changes.foldl Change.apply i.values := fun _ _ _ _ => Insert.apply_values
    rw [foldlM_folds hstep { table } i h]
    exact keepsOrder _
  · have hstep : ∀ step ∈ steps, ∀ u u' : Update, u.apply step = .ok u' →
        u'.set = step.changes.foldl Change.apply u.set := fun _ _ _ _ => Update.apply_set
    rw [foldlM_folds hstep { table } u h]
    exact keepsOrder _

/-- A column that is left out and assigned again stands last, one that is assigned again stays, and
a null member leaves its column as it is. -/
theorem Change.writes_keep_order_update :
    let steps : List Update.Step := [.set "a" (.int 1), .set "c" (.bool true),
      .setFrom (.ok (.object [("b", .int 2), ("c", .null), ("d", .int 3)])), .remove "a",
      .setExpression "b" "now()", .set "a" (.int 4), .filter (.eq "k" .null)]
    ∃ u r, Update.run { table := "t" } steps = .ok u ∧ u.render = .ok r ∧
      KeepsOrder (steps.flatMap Update.Step.changes) u.set ∧
      u.set.map (·.1) = ["c", "b", "d", "a"] ∧ Sql.Fills r.text (u.set.map (·.1)) ∧
      r.text =
        "UPDATE \"t\" SET \"c\" = $1, \"b\" = now(), \"d\" = $2, \"a\" = $3 WHERE \"k\" = $4" := by
  intro steps
  obtain ⟨u, hu⟩ : ∃ u, Update.run { table := "t" } steps = .ok u := ⟨_, rfl⟩
  obtain ⟨r, hr⟩ : ∃ r, u.render = .ok r := by cases hu; exact ⟨_, rfl⟩
  obtain ⟨horder, hfills⟩ := (writes_keep_order "t").2.1 steps u hu
  refine ⟨u, r, hu, hr, horder, ?_, hfills r hr, ?_⟩
  · cases hu
    rfl
  · cases hu
    cases hr
    decide

end Store

end Rowgate
