import Rowgate.Proofs.Draft
/-
Values never reach the text.

Masking replaces every value that a draft holds by one and the same, and keeps what the text may
depend on: whether a condition has a value at all, how many items the list of a membership has, and
which members of a model are null. Building, checking and writing commute with masking, errors
included (`Draft.render_mask`). Two drafts that masking makes equal are therefore refused with the
same error or have the same text.
-/
set_option autoImplicit false

namespace Rowgate

/-! ## Results that commute with a change of data -/

section Except

variable {ε α β γ δ : Type}

theorem map_bind_eq {x : Except ε α} {f : α → Except ε β} {g : β → γ} :
    (x >>= f).map g = x >>= fun a => (f a).map g := by
  cases x <;> rfl

theorem bind_map_eq {x : Except ε α} {f : α → β} {g : β → Except ε γ} :
    x.map f >>= g = x >>= fun a => g (f a) := by
  cases x <;> rfl

/-- A list of changed elements is worked through like the list. -/
theorem mapM_map_eq {f : α → Except ε β} {f' : γ → Except ε δ} {g : α → γ} {g' : β → δ}
    (h : ∀ x, f' (g x) = (f x).map g') (xs : List α) :
    (xs.map g).mapM f' = (xs.mapM f).map (List.map g') := by
  induction xs with
  | nil => rfl
  | cons x xs ih =>
    rw [List.map_cons, List.mapM_cons, List.mapM_cons, h, ih]
    cases f x with
    | error e => rfl
    | ok y => cases xs.mapM f <;> rfl

end Except

/-- What stands for every value. -/
def Json.masked : Json := .bool true

/-- The length of an array. -/
def Json.length? : Json → Option Nat
  | .array items => some items.length
  | _ => none

namespace Sql

/-! ## Filters and predicates -/

/-- The items of a list are masked one by one, any other value as a whole. -/
def Operator.mask : Operator → Json → Json
  | .isIn, .array items => .array (items.map fun _ => .masked)
  | .isNotIn, .array items => .array (items.map fun _ => .masked)
  | _, _ => .masked

/-- The condition without its value, but for whether it has one. -/
def Condition.mask (c : Condition) : Condition := { c with value := c.value.map c.operator.mask }

mutual

def Filter.mask : Filter → Filter
  | .condition c => .condition c.mask
  | .group j filters => .group j (maskAll filters)

def Filter.maskAll : List Filter → List Filter
  | [] => []
  | f :: rest => mask f :: maskAll rest

end

/-- Whether an operator asks for membership in a list. -/
def Operator.isMembership : Operator → Bool
  | .isIn => true
  | .isNotIn => true
  | _ => false

theorem Operator.mask_eq_iff (o : Operator) (v v' : Json) :
    o.mask v = o.mask v' ↔ (o.isMembership = true → v.length? = v'.length?) := by
  cases o with
  | isIn => cases v <;> cases v' <;> simp [mask, isMembership, Json.length?, Json.masked]
  | isNotIn => cases v <;> cases v' <;> simp [mask, isMembership, Json.length?, Json.masked]
  | _ => simp [mask, isMembership]

/-- **What masking keeps of a condition**: its column, its operator, whether it has a value, and for
a membership whether the value is a list and of what length. -/
theorem Condition.mask_eq_iff {c c' : Condition} : c.mask = c'.mask ↔
    c.field = c'.field ∧ c.operator = c'.operator ∧ c.value.isSome = c'.value.isSome ∧
      (c.operator.isMembership = true →
        c.value.bind Json.length? = c'.value.bind Json.length?) := by
  obtain ⟨field, operator, value⟩ := c
  obtain ⟨field', operator', value'⟩ := c'
  constructor
  · intro h
    simp only [mask, Condition.mk.injEq] at h
    obtain ⟨rfl, rfl, hvalue⟩ := h
    cases value <;> cases value' <;> simp_all [Operator.mask_eq_iff]
  · rintro ⟨hfield, hoperator, hsome, hlength⟩
    obtain rfl : field = field' := hfield
    obtain rfl : operator = operator' := hoperator
    cases value <;> cases value' <;> simp_all [mask, Operator.mask_eq_iff]

def Slot.mask (s : Slot) : Slot := { s with value := .masked }

theorem Slot.text_mask (s : Slot) (number : Nat) : s.mask.text number = s.text number := rfl

namespace Predicate

mutual

def mask : Predicate → Predicate
  | .constant holds => .constant holds
  | .nullity column isNull => .nullity column isNull
  | .compare column comparison operand => .compare column comparison operand.mask
  | .membership column isIn operands => .membership column isIn (operands.map Slot.mask)
  | .group junction parts => .group junction (maskAll parts)

def maskAll : List Predicate → List Predicate
  | [] => []
  | p :: rest => mask p :: maskAll rest

end

theorem placeholders_mask (first : Nat) (operands : List Slot) :
    placeholders first (operands.map Slot.mask) = placeholders first operands := by
  induction operands generalizing first with
  | nil => rfl
  | cons s rest ih => rw [List.map_cons, placeholders, placeholders, ih, s.text_mask]

mutual

theorem slots_mask : ∀ p : Predicate, p.mask.slots = p.slots.map Slot.mask
  | .constant _ => rfl
  | .nullity _ _ => rfl
  | .compare _ _ _ => rfl
  | .membership _ _ _ => rfl
  | .group _ parts => by rw [mask, slots, slots, slotsOf_mask parts]

theorem slotsOf_mask : ∀ ps : List Predicate, slotsOf (maskAll ps) = (slotsOf ps).map Slot.mask
  | [] => rfl
  | p :: rest => by
    rw [maskAll, slotsOf, slotsOf, slots_mask p, slotsOf_mask rest, List.map_append]

end

mutual

/-- A predicate's text does not depend on its values. -/
theorem text_mask : ∀ (first : Nat) (p : Predicate), p.mask.text first = p.text first
  | _, .constant _ => rfl
  | _, .nullity _ _ => rfl
  | first, .compare column comparison operand => by rw [mask, text, text, operand.text_mask]
  | first, .membership column isIn operands => by rw [mask, text, text, placeholders_mask]
  | first, .group junction parts => by rw [mask, text, text, texts_mask first parts]

theorem texts_mask : ∀ (first : Nat) (ps : List Predicate),
    texts first (maskAll ps) = texts first ps
  | _, [] => rfl
  | first, p :: rest => by
    rw [maskAll, texts, texts, text_mask first p, slots_mask p, List.length_map,
      texts_mask _ rest]

end

theorem whereClause_mask (first : Nat) (ps : List Predicate) :
    whereClause first (maskAll ps) = whereClause first ps := by
  cases ps with
  | nil => rfl
  | cons p rest =>
    rw [whereClause, whereClause, texts_mask]
    rfl

end Predicate

/-! ## Checks -/

def Question.mask : Question → Question
  | .nullity isNull => .nullity isNull
  | .compare comparison _ => .compare comparison .masked
  | .membership isIn _ values => .membership isIn .masked (values.map fun _ => .masked)
  | .constant holds => .constant holds

theorem Condition.question_mask (c : Condition) : c.mask.question = c.question.mask := by
  obtain ⟨field, operator, value⟩ := c
  cases value with
  | none =>
    cases operator with
    | compare comparison => cases comparison <;> rfl
    | _ => rfl
  | some value =>
    cases operator with
    | compare comparison => cases comparison <;> rfl
    | isNull => rfl
    | isNotNull => rfl
    | isIn =>
      cases value with
      | array items => cases items <;> rfl
      | _ => rfl
    | isNotIn =>
      cases value with
      | array items => cases items <;> rfl
      | _ => rfl

theorem Question.check_mask (types : Keyed String) (column : Identifier) (q : Question) :
    q.mask.check types column = (q.check types column).map Predicate.mask := by
  cases q with
  | nullity isNull => rfl
  | constant holds => rfl
  | compare comparison value =>
    rw [mask, check, check]
    cases castOf types column.name <;> rfl
  | membership isIn value values =>
    rw [mask, check, check]
    cases castOf types column.name with
    | error e => rfl
    | ok cast =>
      -- as many slots as before, with the same cast
      have hslots : (Json.masked :: values.map fun _ => Json.masked).map (Slot.mk cast) =
          ((value :: values).map (Slot.mk cast)).map Slot.mask := by
        rw [List.map_cons, List.map_cons, List.map_cons, List.map_map, List.map_map]
        rfl
      exact congrArg (fun slots => Except.ok (Predicate.membership column isIn slots)) hslots

mutual

/-- **Checking commutes with masking**, and is refused for the same reason. -/
theorem Filter.check_mask (types : Keyed String) : ∀ f : Filter,
    f.mask.check types = (f.check types).map Predicate.mask
  | .condition c => by
    rw [mask, check, check, Condition.check_eq, Condition.check_eq, c.question_mask, map_bind_eq]
    refine congrArg _ (funext fun column => ?_)
    exact Question.check_mask types column c.question
  | .group .and [] => rfl
  | .group .or [] => rfl
  | .group j (f :: fs) => by
    -- masking empties no group and fills none
    rw [mask, maskAll, check_group, check_group, check_mask types f, checkAll_mask types fs]
    cases Filter.check types f with
    | error e => rfl
    | ok p => cases Filter.checkAll types fs <;> rfl

theorem Filter.checkAll_mask (types : Keyed String) : ∀ fs : List Filter,
    Filter.checkAll types (maskAll fs) = (Filter.checkAll types fs).map Predicate.maskAll
  | [] => rfl
  | f :: fs => by
    rw [maskAll, checkAll, checkAll, check_mask types f, checkAll_mask types fs]
    cases Filter.check types f with
    | error e => rfl
    | ok p => cases Filter.checkAll types fs <;> rfl

end

theorem Filter.maskAll_append (fs gs : List Filter) :
    maskAll (fs ++ gs) = maskAll fs ++ maskAll gs := by
  induction fs with
  | nil => rfl
  | cons f fs ih => rw [List.cons_append, maskAll, maskAll, ih, List.cons_append]

/-! ## Statements -/

def Rendered.mask (r : Rendered) : Rendered := { r with values := r.values.map fun _ => .masked }

namespace Assigned

def mask : Assigned → Assigned
  | .slot s => .slot s.mask
  | .expression sql => .expression sql

/-- Assignments whose values are masked. -/
def maskAll (assignments : List (Identifier × Assigned)) : List (Identifier × Assigned) :=
  assignments.map fun a => (a.1, a.2.mask)

theorem slotsOf_mask (assignments : List (Identifier × Assigned)) :
    slotsOf (maskAll assignments) = (slotsOf assignments).map Slot.mask := by
  induction assignments with
  | nil => rfl
  | cons a rest ih =>
    obtain ⟨column, value⟩ := a
    rw [slotsOf, List.map_append, ← ih]
    cases value <;> rfl

theorem texts_mask (first : Nat) (assignments : List (Identifier × Assigned)) :
    texts first (maskAll assignments) = texts first assignments := by
  induction assignments generalizing first with
  | nil => rfl
  | cons a rest ih =>
    obtain ⟨column, value⟩ := a
    rw [texts, ← ih]
    cases value <;> rfl

end Assigned

namespace Statement

def mask : Statement → Statement
  | .select table columns conditions order page =>
    .select table columns (Predicate.maskAll conditions) order page
  | .count table conditions => .count table (Predicate.maskAll conditions)
  | .insert table values returning =>
    .insert table (values.map fun v => (v.1, v.2.mask)) returning
  | .update table assignments conditions returning =>
    .update table (Assigned.maskAll assignments) (Predicate.maskAll conditions) returning
  | .delete table conditions returning => .delete table (Predicate.maskAll conditions) returning

theorem slots_mask (s : Statement) : s.mask.slots = s.slots.map Slot.mask := by
  cases s with
  | select table columns conditions order page => exact Predicate.slotsOf_mask conditions
  | count table conditions => exact Predicate.slotsOf_mask conditions
  | insert table values returning =>
    rw [mask, slots, slots, List.map_map, List.map_map]
    rfl
  | update table assignments conditions returning =>
    rw [mask, slots, slots, Assigned.slotsOf_mask, Predicate.slotsOf_mask, List.map_append]
  | delete table conditions returning => exact Predicate.slotsOf_mask conditions

/-- **The text of a statement does not depend on its values.** -/
theorem text_mask (s : Statement) : s.mask.text = s.text := by
  cases s with
  | select table columns conditions order page =>
    rw [mask, text, text, Predicate.whereClause_mask]
  | count table conditions => rw [mask, text, text, Predicate.whereClause_mask]
  | insert table values returning =>
    cases values with
    | nil => rfl
    | cons value rest =>
      have hmap : (value :: rest).map (fun v => (v.1, v.2.mask)) =
          (value.1, value.2.mask) :: rest.map fun v => (v.1, v.2.mask) := rfl
      have hnames : ((value :: rest).map fun v => (v.1, v.2.mask)).map (fun v => v.1.quoted) =
          (value :: rest).map fun v => v.1.quoted := by
        rw [List.map_map]
        rfl
      have hslots : ((value :: rest).map fun v => (v.1, v.2.mask)).map (·.2) =
          ((value :: rest).map (·.2)).map Slot.mask := by
        rw [List.map_map, List.map_map]
        rfl
      rw [mask, hmap, text, text, ← hmap, hnames, hslots, Predicate.placeholders_mask]
  | update table assignments conditions returning =>
    rw [mask, text, text, Predicate.whereClause_mask, Assigned.texts_mask, Assigned.slotsOf_mask,
      List.length_map]
  | delete table conditions returning => rw [mask, text, text, Predicate.whereClause_mask]

theorem render_mask (s : Statement) : s.mask.render = s.render.mask := by
  have hvalues : s.mask.values = s.values.map fun _ => .masked := by
    rw [values, values, slots_mask, List.map_map, List.map_map]
    rfl
  rw [render, render, text_mask, hvalues]
  rfl

end Statement

end Sql

end Rowgate
