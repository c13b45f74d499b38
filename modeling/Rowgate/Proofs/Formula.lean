import Rowgate.Proofs.Operands
/-
What filters mean, and what the formula of a predicate says.

SQL has three truth values: a comparison with null is neither true nor false. Formulas are built with
`AND` and `OR` over atoms, the tests of one column, and an atom knows a value by the number of its
placeholder. The meaning of a filter is defined on the filter itself, by the question that each
condition asks. `Predicate.formula` is what stands in the text of a checked filter, one operator
after the other. `Predicate.value_formulas` says that, whatever truth values the atoms have, the
formula has the value that the filter means.
-/
set_option autoImplicit false

namespace Rowgate.Sql

/-! ## Truth values -/

/-- The truth values of SQL. -/
inductive Truth where
  | fails
  | unknown
  | holds
deriving DecidableEq, Repr

namespace Truth

/-- `AND`: the lesser of two values. -/
def and : Truth → Truth → Truth
  | .holds, t => t
  | .fails, _ => .fails
  | .unknown, .fails => .fails
  | .unknown, _ => .unknown

/-- `OR`: the greater of two values. -/
def or : Truth → Truth → Truth
  | .fails, t => t
  | .holds, _ => .holds
  | .unknown, .holds => .holds
  | .unknown, _ => .unknown

def ofBool : Bool → Truth
  | true => .holds
  | false => .fails

theorem and_assoc (a b c : Truth) : (a.and b).and c = a.and (b.and c) := by
  cases a <;> cases b <;> cases c <;> rfl

theorem or_assoc (a b c : Truth) : (a.or b).or c = a.or (b.or c) := by
  cases a <;> cases b <;> cases c <;> rfl

theorem and_holds (a : Truth) : a.and .holds = a := by cases a <;> rfl

theorem or_fails (a : Truth) : a.or .fails = a := by cases a <;> rfl

theorem or_holds (a : Truth) : a.or .holds = .holds := by cases a <;> rfl

theorem ofBool_and (a b : Bool) : ofBool (a && b) = (ofBool a).and (ofBool b) := by
  cases a <;> cases b <;> rfl

theorem ofBool_or (a b : Bool) : ofBool (a || b) = (ofBool a).or (ofBool b) := by
  cases a <;> cases b <;> rfl

/-- The conjunction of values: it holds if there are none. -/
def all (values : List Truth) : Truth := values.foldr and .holds

/-- The disjunction of values: it fails if there are none. -/
def any (values : List Truth) : Truth := values.foldr or .fails

theorem all_cons (t : Truth) (ts : List Truth) : all (t :: ts) = t.and (all ts) := rfl

theorem any_cons (t : Truth) (ts : List Truth) : any (t :: ts) = t.or (any ts) := rfl

end Truth

/-- How a junction combines truth values. -/
def Junction.join : Junction → Truth → Truth → Truth
  | .and => Truth.and
  | .or => Truth.or

/-- The value of a junction of any number of members. -/
def Junction.value : Junction → List Truth → Truth
  | .and => Truth.all
  | .or => Truth.any

theorem Junction.value_cons (j : Junction) (t : Truth) (ts : List Truth) :
    j.value (t :: ts) = j.join t (j.value ts) := by cases j <;> rfl

theorem Junction.join_assoc (j : Junction) (a b c : Truth) :
    j.join (j.join a b) c = j.join a (j.join b c) := by
  cases j
  · exact Truth.and_assoc a b c
  · exact Truth.or_assoc a b c

theorem Junction.join_value_nil (j : Junction) (a : Truth) : j.join a (j.value []) = a := by
  cases j
  · exact Truth.and_holds a
  · exact Truth.or_fails a

/-! ## Formulas -/

/-- A test of one column. Values are known by the numbers of their placeholders. -/
inductive Atom where
  | nullity (column : String) (isNull : Bool)
  | compare (column : String) (comparison : Comparison) (number : Nat)
  | membership (column : String) (isIn : Bool) (numbers : List Nat)
deriving DecidableEq, Repr

/-- A condition as SQL has it. -/
inductive Formula where
  | constant (holds : Bool)
  | atom (a : Atom)
  | join (junction : Junction) (left right : Formula)
deriving DecidableEq, Repr

/-- The value of a formula under truth values for the atoms. -/
def Formula.value (truth : Atom → Truth) : Formula → Truth
  | .constant holds => .ofBool holds
  | .atom a => truth a
  | .join j left right => j.join (left.value truth) (right.value truth)

/-! ## The meaning of filters -/

/-- What a question about a column means, if its values are numbered from `first`. -/
def Question.meaning (truth : Atom → Truth) (column : String) (first : Nat) : Question → Truth
  | .nullity isNull => truth (.nullity column isNull)
  | .compare comparison _ => truth (.compare column comparison first)
  | .membership isIn _ values =>
    truth (.membership column isIn (List.range' first (values.length + 1)))
  | .constant holds => .ofBool holds

mutual

/-- What a filter means, if its values are numbered from `first`: a condition what it asks of its
column, a group the conjunction or the disjunction of its members. -/
def Filter.meaning (truth : Atom → Truth) (first : Nat) : Filter → Truth
  | .condition c => c.question.meaning truth c.field first
  | .group .and filters => Truth.all (meanings truth first filters)
  | .group .or filters => Truth.any (meanings truth first filters)

/-- What each of a list of filters means, their values numbered on from one to the next. -/
def Filter.meanings (truth : Atom → Truth) (first : Nat) : List Filter → List Truth
  | [] => []
  | f :: rest => meaning truth first f :: meanings truth (first + (operands f).length) rest

end

theorem Filter.meaning_group (truth : Atom → Truth) (first : Nat) (j : Junction)
    (filters : List Filter) :
    Filter.meaning truth first (.group j filters) = j.value (meanings truth first filters) := by
  cases j <;> rfl

/-! ## The formula of a predicate -/

/-- A formula behind what was read before it, if there was anything. -/
def Formula.joinTo (j : Junction) : Option Formula → Formula → Formula
  | none, e => e
  | some before, e => .join j before e

/-- Formulas joined one behind the other, behind what was read before them. -/
def Formula.joinFrom (j : Junction) (before : Option Formula) : List Formula → Option Formula
  | [] => before
  | e :: rest => joinFrom j (some (joinTo j before e)) rest

namespace Predicate

mutual

/-- The formula in the text of a predicate, with placeholders numbered from `first`. -/
def formula (first : Nat) : Predicate → Formula
  | .constant holds => .constant holds
  | .nullity column isNull => .atom (.nullity column.name isNull)
  | .compare column comparison _ => .atom (.compare column.name comparison first)
  | .membership column isIn operands =>
    .atom (.membership column.name isIn (List.range' first operands.length))
  | .group junction parts =>
    (Formula.joinFrom junction none (formulas first parts)).getD (.constant (junction == .and))

/-- The formulas of a list of predicates, numbered on from one to the next. -/
def formulas (first : Nat) : List Predicate → List Formula
  | [] => []
  | p :: rest => formula first p :: formulas (first + (slots p).length) rest

end

end Predicate

/-- Joining does not depend on how the formulas are bracketed. -/
theorem Formula.value_joinFrom (j : Junction) (before : Formula) (es : List Formula) :
    ∃ e, joinFrom j (some before) es = some e ∧ ∀ truth,
      e.value truth = j.join (before.value truth) (j.value (es.map (·.value truth))) := by
  induction es generalizing before with
  | nil => exact ⟨before, rfl, fun _ => (j.join_value_nil _).symm⟩
  | cons f es ih =>
    obtain ⟨e, hjoin, hvalue⟩ := ih (.join j before f)
    refine ⟨e, hjoin, fun truth => ?_⟩
    rw [hvalue, List.map_cons, j.value_cons, Formula.value, j.join_assoc]

/-- The value of joined formulas. -/
theorem Formula.value_joinFrom_none (j : Junction) (e : Formula) (es : List Formula) :
    ∃ joined, joinFrom j none (e :: es) = some joined ∧ ∀ truth,
      joined.value truth = j.value ((e :: es).map (·.value truth)) := by
  obtain ⟨joined, hjoin, hvalue⟩ := value_joinFrom j e es
  refine ⟨joined, hjoin, fun truth => ?_⟩
  rw [hvalue, List.map_cons, j.value_cons]

/-- **Checked filters mean what their formulas say**, under all truth values of the atoms and
whatever number the placeholders start with. -/
theorem Predicate.value_formulas {types : Keyed String} {fs : List Filter} {ps : List Predicate}
    (h : Filter.checkAll types fs = .ok ps) (truth : Atom → Truth) (first : Nat) :
    (formulas first ps).map (·.value truth) = Filter.meanings truth first fs := by
  have inv : CheckInvariant types
      (fun f p => p.slots.length = f.operands.length ∧
        ∀ first, (p.formula first).value truth = f.meaning truth first)
      (fun fs ps => (slotsOf ps).length = (Filter.operandsOf fs).length ∧
        ∀ first, (formulas first ps).map (·.value truth) = Filter.meanings truth first fs) :=
    { condition := by
        intro c column p hcolumn hp
        simp only [Filter.operands, Filter.meaning, List.length_map, ← hcolumn]
        obtain ⟨isNull, hq, rfl⟩ | ⟨holds, hq, rfl⟩ | ⟨comparison, value, cast, hq, _, rfl⟩ |
          ⟨isIn, value, values, cast, hq, _, rfl⟩ := Question.check_cases hp
        · rw [hq]
          exact ⟨rfl, fun _ => rfl⟩
        · rw [hq]
          exact ⟨rfl, fun _ => rfl⟩
        · rw [hq]
          exact ⟨rfl, fun _ => rfl⟩
        · rw [hq]
          simp [slots, Question.values, formula, Formula.value, Question.meaning]
      all := ⟨rfl, fun _ => rfl⟩
      any := ⟨rfl, fun _ => rfl⟩
      group := by
        rintro j f fs p ps ⟨hlength, hvalues⟩
        -- the group has a member, so something was joined
        refine ⟨hlength, fun first => ?_⟩
        obtain ⟨e, hjoin, hvalue⟩ := Formula.value_joinFrom_none j (p.formula first)
          (formulas (first + (slots p).length) ps)
        rw [formula, formulas, hjoin, Option.getD_some, hvalue, Filter.meaning_group, ← hvalues,
          formulas]
      nil := ⟨rfl, fun _ => rfl⟩
      cons := by
        rintro f fs p ps ⟨hslots, hvalue⟩ ⟨hlength, hvalues⟩
        refine ⟨?_, fun first => ?_⟩
        · rw [slotsOf, Filter.operandsOf, List.length_append, List.length_append, hslots, hlength]
        · rw [formulas, List.map_cons, hvalue, hvalues, hslots, Filter.meanings] }
  exact (inv.checkAll fs ps h).2 first

end Rowgate.Sql
