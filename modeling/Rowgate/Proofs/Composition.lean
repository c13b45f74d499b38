import Rowgate.Proofs.Placeholder
/-
Lists of filters put together.

Each filter of a clause is numbered from where the filters in front of it have come to. So the clause
of two lists, one behind the other, is the clause of the first and the conditions of the second,
which start where the first has ended. The start number is general in the induction
(`Predicate.texts_append`), since the filters behind the first one never start at the number that the
clause starts at.

A group of filters that all hold is written as the filters are, in parentheses, and binds what they
bind. Whether filters are given one by one, in one list or in such a group is therefore nothing that
the placeholders tell (`Query.clauses_compose`).
-/
set_option autoImplicit false

namespace Rowgate.Sql

/-! ## Clauses put together -/

namespace Rendered

/-- The conditions of a clause: what stands behind its keyword. -/
def conditions (r : Rendered) : String := String.ofList (r.text.toList.drop "WHERE ".length)

/-- A clause that goes on with the conditions of another one. -/
def followedBy (r r' : Rendered) : Rendered :=
  ⟨r.text ++ " AND " ++ r'.conditions, r.values ++ r'.values⟩

/-- A clause with its conditions in one pair of parentheses. -/
def enclosed (r : Rendered) : Rendered := ⟨"WHERE (" ++ r.conditions ++ ")", r.values⟩

/-- What a clause binds: its values, and for each placeholder the digits of its number and the column
that it stands behind. -/
def bindings (r : Rendered) : List (List Char × Option String) × List Json :=
  ((marks r.text).map fun m => (m.digits, lastQuoted m.before), r.values)

theorem conditions_where (text : String) (values : List Json) :
    conditions ⟨"WHERE " ++ text, values⟩ = text := by
  have hkeyword : "WHERE ".length = "WHERE ".toList.length := rfl
  rw [conditions, String.toList_append, hkeyword, List.drop_left, String.ofList_toList]

end Rendered

/-! ## Checks and numbers of lists one behind the other -/

/-- Filters are checked one by one, so those of the second list behind those of the first. -/
theorem Filter.checkAll_append (types : Keyed String) (fs gs : List Filter) :
    Filter.checkAll types (fs ++ gs) = (do
      let ps ← Filter.checkAll types fs
      let qs ← Filter.checkAll types gs
      return ps ++ qs) := by
  induction fs with
  | nil =>
    rw [List.nil_append, checkAll]
    exact (bind_pure (checkAll types gs)).symm
  | cons f fs ih =>
    rw [List.cons_append, checkAll, checkAll, ih]
    simp only [bind_assoc, pure_bind, List.cons_append]

/-- There is a predicate if there is a filter. -/
theorem Filter.checkAll_ne_nil {types : Keyed String} {fs : List Filter} {ps : List Predicate}
    (hne : fs ≠ []) (h : Filter.checkAll types fs = .ok ps) : ps ≠ [] := by
  cases fs with
  | nil => exact absurd rfl hne
  | cons f fs =>
    rw [checkAll] at h
    obtain ⟨p, _, h⟩ := bind_eq_ok.mp h
    obtain ⟨rest, _, h⟩ := bind_eq_ok.mp h
    cases h
    exact List.cons_ne_nil p rest

namespace Predicate

theorem slotsOf_append (ps qs : List Predicate) :
    slotsOf (ps ++ qs) = slotsOf ps ++ slotsOf qs := by
  induction ps with
  | nil => rfl
  | cons p ps ih => rw [List.cons_append, slotsOf, slotsOf, ih, List.append_assoc]

theorem piecesOf_append (ps qs : List Predicate) :
    piecesOf (ps ++ qs) = piecesOf ps ++ piecesOf qs := by
  induction ps with
  | nil => rfl
  | cons p ps ih => rw [List.cons_append, piecesOf, piecesOf, ih, List.cons_append]

/-- **Numbers go on behind a list** where its slots end. -/
theorem texts_append (first : Nat) (ps qs : List Predicate) :
    texts first (ps ++ qs) = texts first ps ++ texts (first + (slotsOf ps).length) qs := by
  induction ps generalizing first with
  | nil => rfl
  | cons p ps ih =>
    rw [List.cons_append, texts, texts, ih, slotsOf, List.length_append, Nat.add_assoc,
      List.cons_append]

theorem whereClause_of_ne_nil {ps : List Predicate} (hne : ps ≠ []) (first : Nat) :
    whereClause first ps = "WHERE " ++ String.intercalate " AND " (texts first ps) := by
  rw [whereClause, if_neg (mt List.isEmpty_iff.mp hne)]

theorem texts_ne_nil {ps : List Predicate} (hne : ps ≠ []) (first : Nat) : texts first ps ≠ [] := by
  cases ps with
  | nil => exact absurd rfl hne
  | cons p ps => exact List.cons_ne_nil _ _

end Predicate

/-- A group with a member is checked like its members. -/
theorem Filter.checkAll_and (types : Keyed String) {fs : List Filter} (hne : fs ≠ []) :
    Filter.checkAll types [.and fs] =
      (Filter.checkAll types fs).map fun ps => [.group .and ps] := by
  cases fs with
  | nil => exact absurd rfl hne
  | cons f fs =>
    rw [checkAll, checkAll, Filter.and, check_group, checkAll]
    cases check types f with
    | error e => rfl
    | ok p => cases checkAll types fs <;> rfl

/-! ## Clauses of checked filters -/

namespace Predicate

/-- The clause of checked filters, with the values that it binds. -/
def rendered (first : Nat) (ps : List Predicate) : Rendered :=
  ⟨whereClause first ps, (slotsOf ps).map (·.value)⟩

variable {ps qs : List Predicate}

theorem text_rendered (hps : ps ≠ []) (first : Nat) :
    (rendered first ps).text = "WHERE " ++ (rendered first ps).conditions := by
  rw [rendered, whereClause_of_ne_nil hps, Rendered.conditions_where]

/-- The clause of two lists. -/
theorem rendered_append (hps : ps ≠ []) (hqs : qs ≠ []) (first : Nat) :
    rendered first (ps ++ qs) = (rendered first ps).followedBy
      (rendered (first + (rendered first ps).values.length) qs) := by
  have hends : (rendered first ps).values.length = (slotsOf ps).length := List.length_map _
  have hboth : ps ++ qs ≠ [] := List.append_ne_nil_of_left_ne_nil hps qs
  have htext : whereClause first (ps ++ qs) = whereClause first ps ++ " AND " ++
      String.intercalate " AND " (texts (first + (slotsOf ps).length) qs) := by
    rw [whereClause_of_ne_nil hboth, whereClause_of_ne_nil hps, texts_append,
      String.intercalate_append_of_ne_nil (texts_ne_nil hps _) (texts_ne_nil hqs _),
      ← String.append_assoc, ← String.append_assoc]
  -- behind the keyword of the second clause stand its conditions
  rw [hends, Rendered.followedBy, rendered, rendered, rendered, htext, slotsOf_append,
    List.map_append, whereClause_of_ne_nil hqs, Rendered.conditions_where]

/-- The clause of a group. -/
theorem rendered_group (hps : ps ≠ []) (first : Nat) :
    rendered first [.group .and ps] = (rendered first ps).enclosed := by
  have htext : whereClause first [.group .and ps] =
      "WHERE (" ++ String.intercalate " AND " (texts first ps) ++ ")" := by
    rw [whereClause_of_ne_nil (List.cons_ne_nil _ _), texts, texts, String.intercalate_singleton,
      text, ← String.append_assoc, ← String.append_assoc]
    rfl
  have hslots : slotsOf [.group .and ps] = slotsOf ps := by
    rw [slotsOf, slotsOf, List.append_nil, slots]
  rw [Rendered.enclosed, rendered, rendered, htext, hslots, whereClause_of_ne_nil hps,
    Rendered.conditions_where]

/-- What a clause tells of its placeholders is what its slots are. -/
theorem bindings_rendered (first : Nat) (ps : List Predicate) :
    (rendered first ps).bindings =
      (((Piece.bound (wherePieces ps)).zipIdx first).map fun place =>
          ((toString place.2).toList, some place.1.1.name),
        (Piece.bound (wherePieces ps)).map (·.2.value)) := by
  -- in a clause every placeholder stands behind the name of its column
  have horder : Piece.Orderly True none (wherePieces ps) := (closed_wherePieces ps).orderly
  have hplaces := Piece.places_marksFrom horder first
  rw [charsOf_wherePieces] at hplaces
  rw [Rendered.bindings, rendered, marks, hplaces, ← slots_wherePieces, ← Piece.map_bound,
    List.map_map]
  rfl

/-- Parentheses around the last conditions bind nothing. -/
theorem bindings_group (first : Nat) (others ps : List Predicate) :
    (rendered first (others ++ [.group .and ps])).bindings =
      (rendered first (others ++ ps)).bindings := by
  have hbound : Piece.bound (wherePieces (others ++ [.group .and ps])) =
      Piece.bound (wherePieces (others ++ ps)) := by
    simp only [bound_wherePieces, piecesOf_append, List.flatMap_append, piecesOf, pieces,
      List.flatMap_singleton, Piece.bound, Piece.bound_append, Piece.bound_joined, List.append_nil]
  rw [bindings_rendered, bindings_rendered, hbound]

end Predicate

/-! ## Main result -/

namespace Query

/-- The query with the given filters in place of its own. -/
def withFilters (query : Query) (fs : List Filter) : Query := { query with filters := fs }

/-- A clause is that of the checked filters. -/
theorem whereClause_eq (query : Query) (first : Nat) : query.whereClause first =
    (Filter.checkAll query.columnTypes query.filters).map (Predicate.rendered first) := by
  rw [whereClause, predicates]
  cases Filter.checkAll query.columnTypes query.filters <;> rfl

variable {fs gs : List Filter}

/-- The clause of filters behind others. -/
theorem whereClause_append (query : Query) (hfs : fs ≠ []) (hgs : gs ≠ []) (first : Nat) :
    (query.withFilters (fs ++ gs)).whereClause first = (do
      let r ← (query.withFilters fs).whereClause first
      let r' ← (query.withFilters gs).whereClause (first + r.values.length)
      return r.followedBy r') := by
  simp only [whereClause_eq, withFilters, Filter.checkAll_append]
  cases hps : Filter.checkAll query.columnTypes fs with
  | error e => rfl
  | ok ps =>
    -- the second list is reached only now, so its error counts only now
    cases hqs : Filter.checkAll query.columnTypes gs with
    | error e => rfl
    | ok qs =>
      have hpne := Filter.checkAll_ne_nil hfs hps
      have hqne := Filter.checkAll_ne_nil hgs hqs
      exact congrArg Except.ok (Predicate.rendered_append hpne hqne first)

/-- The clause of one group. -/
theorem whereClause_and (query : Query) (hfs : fs ≠ []) (first : Nat) :
    (query.withFilters [.and fs]).whereClause first =
      ((query.withFilters fs).whereClause first).map Rendered.enclosed := by
  simp only [whereClause_eq, withFilters, Filter.checkAll_and query.columnTypes hfs]
  cases hps : Filter.checkAll query.columnTypes fs with
  | error e => rfl
  | ok ps =>
    exact congrArg Except.ok (Predicate.rendered_group (Filter.checkAll_ne_nil hfs hps) first)

/-- Filters given one by one are the filters given in one list. -/
theorem run_filters (query : Query) (fs : List Filter) :
    query.run (fs.map .filter) = query.apply (.filters fs) := by
  induction fs generalizing query with
  | nil => simp [run, apply]
  | cons f fs ih =>
    have hstep : query.run ((f :: fs).map .filter) =
        (query.apply (.filter f)).run (fs.map .filter) := rfl
    rw [hstep, ih]
    simp [apply]

/-- A group of filters that all hold binds what the filters bind, behind whatever others. -/
theorem bindings_and (query : Query) (hfs : fs ≠ []) (first : Nat) :
    ((query.apply (.filter (.and fs))).whereClause first).map Rendered.bindings =
      ((query.apply (.filters fs)).whereClause first).map Rendered.bindings := by
  simp only [whereClause_eq, apply, Filter.checkAll_append,
    Filter.checkAll_and query.columnTypes hfs]
  cases Filter.checkAll query.columnTypes query.filters with
  | error e => rfl
  | ok others =>
    cases Filter.checkAll query.columnTypes fs with
    | error e => rfl
    | ok ps => exact congrArg Except.ok (Predicate.bindings_group first others ps)

/-- **Lists of filters compose.** The clause of two lists with filters, one behind the other, is the
clause of the first and then the conditions of the second, numbered from where the values of the
first end, with the values of both; if one of the lists is refused, the error is that of the first
one refused. The clause of a group of filters that all hold is the clause of the filters with its
conditions in one pair of parentheses. And whether filters are added one by one, in one list or in
such a group, the clause binds the same values to the same numbers, at the same columns. -/
theorem clauses_compose (query : Query) (hfs : fs ≠ []) (hgs : gs ≠ []) (first : Nat) :
    ((query.withFilters (fs ++ gs)).whereClause first = do
      let r ← (query.withFilters fs).whereClause first
      let r' ← (query.withFilters gs).whereClause (first + r.values.length)
      return r.followedBy r') ∧
    (query.withFilters [.and fs]).whereClause first =
      ((query.withFilters fs).whereClause first).map Rendered.enclosed ∧
    (∀ (fs' : List Filter) (r : Rendered), fs' ≠ [] →
      (query.withFilters fs').whereClause first = .ok r → r.text = "WHERE " ++ r.conditions) ∧
    query.run (fs.map .filter) = query.apply (.filters fs) ∧
    ((query.apply (.filter (.and fs))).whereClause first).map Rendered.bindings =
      ((query.apply (.filters fs)).whereClause first).map Rendered.bindings := by
  refine ⟨query.whereClause_append hfs hgs first, query.whereClause_and hfs first, ?_,
    query.run_filters fs, query.bindings_and hfs first⟩
  intro fs' r hne hr
  rw [whereClause_eq] at hr
  obtain ⟨ps, hps, rfl⟩ := map_eq_ok.mp hr
  exact Predicate.text_rendered (Filter.checkAll_ne_nil hne hps) first

/-- Two lists of two filters, the first of which binds three values, from the fourth number on. -/
theorem clauses_compose_lists :
    let query : Query := { filters := [.isNull "d"], columnTypes := [("a", "int8")] }
    let fs : List Filter := [.isIn "a" [.int 1, .int 2], .eq "b" (.bool true)]
    let gs : List Filter := [.or [.isNotNull "c", .eq "a" (.int 3)], .eq "b" .null]
    ∃ r r', (query.withFilters fs).whereClause 4 = .ok r ∧
      (query.withFilters gs).whereClause 7 = .ok r' ∧
      (query.withFilters (fs ++ gs)).whereClause 4 = .ok (r.followedBy r') ∧
      (r.followedBy r').text = "WHERE \"a\" IN ($4::int8, $5::int8) AND \"b\" = $6 AND " ++
        "(\"c\" IS NOT NULL OR \"a\" = $7::int8) AND \"b\" = $8" ∧
      (query.withFilters [.and fs]).whereClause 4 = .ok r.enclosed ∧
      r.enclosed.text = "WHERE (\"a\" IN ($4::int8, $5::int8) AND \"b\" = $6)" := by
  intro query fs gs
  obtain ⟨r, hr, htext, hvalues⟩ : ∃ r, (query.withFilters fs).whereClause 4 = .ok r ∧
      r.text = "WHERE \"a\" IN ($4::int8, $5::int8) AND \"b\" = $6" ∧ r.values.length = 3 := by
    dsimp only [query, fs]
    exact ⟨_, rfl, by decide, by decide⟩
  obtain ⟨r', hr', htext'⟩ : ∃ r', (query.withFilters gs).whereClause 7 = .ok r' ∧ r'.text =
      "WHERE (\"c\" IS NOT NULL OR \"a\" = $7::int8) AND \"b\" = $8" := by
    dsimp only [query, gs]
    exact ⟨_, rfl, by decide⟩
  have hfs : fs ≠ [] := List.cons_ne_nil _ _
  have hgs : gs ≠ [] := List.cons_ne_nil _ _
  obtain ⟨hboth, hgroup, _⟩ := query.clauses_compose hfs hgs 4
  rw [hr] at hboth hgroup
  refine ⟨r, r', hr, hr', ?_, ?_, hgroup, ?_⟩
  · rw [hboth]
    dsimp only [bind, Except.bind]
    rw [hvalues, hr']
    rfl
  · simp only [Rendered.followedBy, Rendered.conditions, htext, htext']
    decide
  · simp only [Rendered.enclosed, Rendered.conditions, htext]
    decide

end Query

end Rowgate.Sql
