import Rowgate.Proofs.Reader
/-
The `WHERE` clause says what the filters mean.

The clause is written from checked filters and read by precedence. This file closes the circle: the
condition that stands in the text has, under all truth values of its atoms, the value that is
defined on the filters alone. Checked filters can be read back because groups and lists without
members are not written as such (`Filter.checkAll_readable`).
-/
set_option autoImplicit false

namespace Rowgate.Sql

/-- Every registered type has a name without keywords behind its first word. -/
def PlainTypes (types : Keyed String) : Prop :=
  ∀ column type, Keyed.get? column types = some type → PlainType type

theorem Slot.isPlain_of_castOf {types : Keyed String} (htypes : PlainTypes types) {column : String}
    {cast : Option ColumnType} (h : castOf types column = .ok cast) (value : Json) :
    (Slot.mk cast value).IsPlain := by
  intro t ht
  have hget := castOf_eq_ok.mp h
  have hcast : cast = some t := ht
  rw [hcast, Option.map_some] at hget
  exact htypes column t.name hget.symm

/-- **Checked filters can be read back**: no group and no list is empty. -/
theorem Filter.checkAll_readable {types : Keyed String} (htypes : PlainTypes types)
    {fs : List Filter} {ps : List Predicate} (h : Filter.checkAll types fs = .ok ps) :
    Predicate.AllReadable ps := by
  have inv : CheckInvariant types (fun _ p => p.Readable) (fun _ ps => Predicate.AllReadable ps) :=
    { condition := by
        intro c column p hcolumn hp
        obtain ⟨isNull, _, rfl⟩ | ⟨holds, _, rfl⟩ | ⟨comparison, value, cast, _, hcast, rfl⟩ |
          ⟨isIn, value, values, cast, _, hcast, rfl⟩ := Question.check_cases hp
        · exact trivial
        · exact trivial
        · exact Slot.isPlain_of_castOf htypes hcast value
        · refine ⟨by simp, fun s hs => ?_⟩
          obtain ⟨v, _, rfl⟩ := List.mem_map.mp hs
          exact Slot.isPlain_of_castOf htypes hcast v
      all := trivial
      any := trivial
      group := fun _ _ _ _ _ hmembers => ⟨by simp, hmembers⟩
      nil := trivial
      cons := fun _ _ _ _ hp hps => ⟨hp, hps⟩ }
  exact inv.checkAll fs ps h

/-- The clause of checked filters is written from a formula that means what the filters mean, and
unless a type hides a keyword the formula is read back from it. -/
theorem Filter.clause_means {types : Keyed String} {fs : List Filter} (hne : fs ≠ [])
    {ps : List Predicate} (h : Filter.checkAll types fs = .ok ps) (first : Nat) :
    ∃ body e, Predicate.whereClause first ps = "WHERE " ++ body ∧
      Formula.joinFrom .and none (Predicate.formulas first ps) = some e ∧
      (PlainTypes types → read body = some e) ∧
      ∀ truth, e.value truth = Truth.all (Filter.meanings truth first fs) := by
  have hvalues := fun truth => Predicate.value_formulas h truth first
  cases ps with
  | nil =>
    -- checking drops no filter
    cases fs with
    | nil => exact absurd rfl hne
    | cons f fs => cases hvalues fun _ => .holds
  | cons p ps =>
    obtain ⟨e, hjoin, hvalue⟩ := Formula.value_joinFrom_none .and (p.formula first)
      (Predicate.formulas (first + p.slots.length) ps)
    refine ⟨_, e, rfl, hjoin, fun htypes => ?_, fun truth => ?_⟩
    · have hreadable := checkAll_readable htypes h
      exact (Predicate.read_conjunction (List.cons_ne_nil p ps) hreadable first).trans hjoin
    · rw [hvalue, ← hvalues truth]
      rfl

/-- **The clause means what the filters mean.** If the clause of a query has a text, this is a
condition behind `WHERE `, and read by precedence the condition has under all truth values of its
atoms the value of the conjunction of the filters. The atoms know their values by numbers, of which
the first is `first`, and the values are those of the filters from left to right. -/
theorem Query.whereClause_means {query : Query} {first : Nat} {r : Rendered}
    (htypes : ∀ column type, Keyed.get? column query.columnTypes = some type → ' ' ∉ type.toList)
    (h : query.whereClause first = .ok r) (htext : r.text ≠ "") :
    r.values = (Filter.operandsOf query.filters).map (·.value) ∧
      ∃ body e, r.text = "WHERE " ++ body ∧ read body = some e ∧
        ∀ truth, e.value truth = Truth.all (Filter.meanings truth first query.filters) := by
  obtain ⟨ps, hps, h⟩ := bind_eq_ok.mp h
  cases h
  have hne : query.filters ≠ [] := by
    intro hnil
    rw [Query.predicates, hnil] at hps
    cases hps
    exact htext rfl
  have hplain : PlainTypes query.columnTypes :=
    fun column type hget => plainType_of_noSpace (htypes column type hget)
  obtain ⟨body, e, hbody, _, hread, hvalue⟩ := Filter.clause_means hne hps first
  refine ⟨?_, body, e, hbody, hread hplain, hvalue⟩
  have hfits := Filter.checkAll_operands hps
  rw [← Operand.values_of_fits hfits, ← Predicate.slots_wherePieces, ← Piece.map_bound,
    List.map_map]
  rfl

/-- A group in a group, one column with a type, and placeholders from four on. -/
theorem Query.whereClause_means_nested :
    let query : Query :=
      { filters := [.or [.eq "status" (.string "new"),
          .and [.isNotNull "owner", .isIn "kind" [.int 1, .int 2]]]],
        columnTypes := [("status", "text")] }
    ∃ r, query.whereClause 4 = .ok r ∧
      r.text = "WHERE (\"status\" = $4::text OR (\"owner\" IS NOT NULL AND \"kind\" IN ($5, $6)))" ∧
      r.values = [.string "new", .int 1, .int 2] ∧
      ∃ body e, r.text = "WHERE " ++ body ∧ read body = some e ∧
        ∀ truth, e.value truth =
          (truth (.compare "status" .eq 4)).or
            ((truth (.nullity "owner" false)).and (truth (.membership "kind" true [5, 6]))) := by
  intro query
  have htypes : ∀ column type, Keyed.get? column query.columnTypes = some type →
      ' ' ∉ type.toList := by
    intro column type h
    simp only [query, Keyed.get?] at h
    split at h
    · cases h
      decide
    · cases h
  obtain ⟨r, hr, htext⟩ : ∃ r, query.whereClause 4 = .ok r ∧ r.text =
      "WHERE (\"status\" = $4::text OR (\"owner\" IS NOT NULL AND \"kind\" IN ($5, $6)))" :=
    ⟨_, rfl, by decide⟩
  obtain ⟨hvalues, body, e, hbody, hread, hvalue⟩ :=
    whereClause_means htypes hr (by rw [htext]; decide)
  refine ⟨r, hr, htext, hvalues, body, e, hbody, hread, fun truth => ?_⟩
  rw [hvalue truth]
  show (((truth _).or (((truth _).and ((truth _).and .holds)).or .fails)).and .holds) = _
  rw [Truth.and_holds, Truth.and_holds, Truth.or_fails]
  rfl

end Rowgate.Sql
