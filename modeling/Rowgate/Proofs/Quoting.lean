import Rowgate.Proofs.Characters
/-
What stands between the quotes of a statement.

The checks turn names into identifiers one by one, and every name in the layout of a statement is one
of those of its builder: `Builder.statement_within` goes through the clauses. With that, the text of a
draft is read: it is plain, and between its quotes stand names that were given.
-/
set_option autoImplicit false

namespace Rowgate

namespace Sql

open Piece

variable {given : List String}

/-! ## Names that were checked -/

/-- Names that are worked through one by one give identifiers with these names. -/
theorem mem_of_forall₂_names {α β : Type} {f : α → String} {g : β → Identifier} {xs : List α}
    {ys : List β} (h : List.Forall₂ (fun x y => (g y).name = f x) xs ys)
    (hgiven : xs.map f ⊆ given) : ∀ y ∈ ys, (g y).name ∈ given := by
  induction h with
  | nil => exact fun y hy => by cases hy
  | cons hname _ ih =>
    rw [List.map_cons, List.cons_subset] at hgiven
    refine List.forall_mem_cons.mpr ⟨?_, ih hgiven.2⟩
    rw [hname]
    exact hgiven.1

theorem Identifier.allWithin_listPieces {names : List Identifier}
    (h : ∀ i ∈ names, i.name ∈ given) : AllWithin given (listPieces names) := by
  refine AllWithin.joined (by decide) fun part hmem => ?_
  obtain ⟨i, hi, rfl⟩ := List.mem_map.mp hmem
  exact .cons (h i hi) allWithin_nil

theorem Columns.allWithin_pieces {names : List String} {columns : Columns}
    (h : Columns.ofNames names = .ok columns) (hgiven : names ⊆ given) :
    AllWithin given columns.pieces := by
  rw [ofNames] at h
  split at h
  · cases h
    exact .fixed_cons (by decide) allWithin_nil
  · obtain ⟨identifiers, hidentifiers, h⟩ := bind_eq_ok.mp h
    cases h
    have hnames := (mapM_eq_ok hidentifiers).imp fun _ _ => Identifier.ofName_eq_ok.mp
    exact Identifier.allWithin_listPieces
      (mem_of_forall₂_names (f := id) (g := id) hnames (by rwa [List.map_id]))

theorem SortTerm.allWithin_clausePieces {order : List (String × Direction)}
    {terms : List SortTerm} (h : SortTerm.ofNames order = .ok terms)
    (hgiven : order.map (·.1) ⊆ given) : AllWithin given (clausePieces terms) := by
  have hterms : List.Forall₂ (fun (o : String × Direction) (t : SortTerm) => t.column.name = o.1)
      order terms := by
    refine (mapM_eq_ok h).imp fun o t hone => ?_
    obtain ⟨i, hi, hone⟩ := bind_eq_ok.mp hone
    cases hone
    exact Identifier.ofName_eq_ok.mp hi
  have hnames := mem_of_forall₂_names hterms hgiven
  rw [clausePieces]
  split
  · exact allWithin_nil
  · refine .fixed_cons (by decide) (AllWithin.joined (by decide) fun part hmem => ?_)
    obtain ⟨t, ht, rfl⟩ := List.mem_map.mp hmem
    refine .cons (hnames t ht) (.fixed_cons ?_ allWithin_nil)
    cases t.direction <;> decide

theorem Page.allWithin_pieces (page : Page) : AllWithin given page.pieces := by
  rw [pieces]
  split
  · exact allWithin_nil
  · exact .cons page.bare_text allWithin_nil

/-- **The names of checked filters are their fields**, and filters bring no expression. -/
theorem Filter.allWithin_wherePieces {types : Keyed String} {fs : List Filter}
    {ps : List Predicate} (h : Filter.checkAll types fs = .ok ps) (hgiven : fieldsOf fs ⊆ given) :
    AllWithin given (Predicate.wherePieces ps) := by
  have inv : CheckInvariant types (fun f p => f.fields ⊆ given → AllWithin given p.pieces)
      (fun fs ps => fieldsOf fs ⊆ given →
        ∀ part ∈ Predicate.piecesOf ps, AllWithin given part) :=
    { condition := by
        intro c column p hcolumn hp hfields
        have hname : column.name ∈ given := by
          rw [hcolumn]
          exact hfields List.mem_cons_self
        obtain ⟨isNull, _, rfl⟩ | ⟨holds, _, rfl⟩ | ⟨comparison, value, cast, _, _, rfl⟩ |
          ⟨isIn, value, values, cast, _, _, rfl⟩ := Question.check_cases hp
        · cases isNull <;> exact .cons hname (.fixed_cons (by decide) allWithin_nil)
        · cases holds <;> exact .fixed_cons (by decide) allWithin_nil
        · refine .cons hname (.fixed_cons ?_ (.cons trivial allWithin_nil))
          cases comparison <;> decide
        · refine .cons hname (.fixed_cons ?_ ?_)
          · cases isIn <;> decide
          · exact (allWithin_placeholders _).append (.fixed_cons (by decide) allWithin_nil)
      all := fun _ => .fixed_cons (by decide) allWithin_nil
      any := fun _ => .fixed_cons (by decide) allWithin_nil
      group := by
        intro j f fs p ps hmembers hfields
        refine .fixed_cons (by decide) (.append ?_ (.fixed_cons (by decide) allWithin_nil))
        refine .joined ?_ (hmembers hfields)
        cases j <;> decide
      nil := fun _ _ hmem => by cases hmem
      cons := by
        intro f fs p ps hf hfs hfields
        rw [fieldsOf, List.append_subset] at hfields
        exact List.forall_mem_cons.mpr ⟨hf hfields.1, hfs hfields.2⟩ }
  rw [Predicate.wherePieces]
  split
  · exact allWithin_nil
  · exact .fixed_cons (by decide) (.joined (by decide) (inv.checkAll fs ps h hgiven))

end Sql

namespace Store

open Sql (Piece)
open Sql.Piece (AllWithin)

variable {given : List String}

theorem returningColumns_within {names : List String} {columns : Option Sql.Columns}
    (h : returningColumns names = .ok columns) (hgiven : names ⊆ given) :
    AllWithin given (Sql.returningPieces columns) := by
  rw [returningColumns] at h
  split at h
  · cases h
    exact Piece.allWithin_nil
  · obtain ⟨c, hc, h⟩ := bind_eq_ok.mp h
    cases h
    exact .fixed_cons (by decide) (Sql.Columns.allWithin_pieces hc hgiven)

theorem Insert.slots_within {types : Keyed String} {values : Assignments Json}
    {slots : List (Sql.Identifier × Sql.Slot)} (h : Insert.slots types values = .ok slots)
    (hgiven : values.map (·.1) ⊆ given) : ∀ s ∈ slots, s.1.name ∈ given :=
  Sql.mem_of_forall₂_names (Insert.slots_names h) hgiven

theorem Update.assigned_within {types : Keyed String} {set : Assignments NewValue}
    {assignments : List (Sql.Identifier × Sql.Assigned)}
    (h : Update.assigned types set = .ok assignments)
    (hexpression : Sql.Assigned.expressions assignments = [])
    (hgiven : set.map (·.1) ⊆ given) :
    ∀ part ∈ Sql.Assigned.piecesOf assignments, AllWithin given part := by
  have hnames := Sql.mem_of_forall₂_names (Update.assigned_names h) hgiven
  clear h
  induction assignments with
  | nil => exact fun _ hmem => by cases hmem
  | cons a rest ih =>
    obtain ⟨hname, hrest⟩ := List.forall_mem_cons.mp hnames
    obtain ⟨column, value⟩ := a
    cases value with
    | slot s =>
      refine List.forall_mem_cons.mpr ⟨?_, ih hexpression hrest⟩
      exact .cons hname (.fixed_cons (by decide) (.cons trivial Piece.allWithin_nil))
    | expression sql => cases hexpression

/-- **The names of a statement are names of its builder**, and outside of names its text is bare. -/
theorem Builder.statement_within {b : Builder} {s : Sql.Statement} (h : b.statement = .ok s)
    (hexpression : b.expressions = []) : AllWithin b.names s.pieces := by
  have htable : ∀ {table : String} {i : Sql.Identifier} {names : List String},
      Sql.Identifier.ofName table = .ok i → i.name ∈ table :: names := by
    intro table i names hi
    rw [Sql.Identifier.ofName_eq_ok.mp hi]
    exact List.mem_cons_self
  have hexpressions : s.expressions = [] := by rw [Builder.statement_expressions h, hexpression]
  cases b with
  | select q =>
    obtain ⟨table, columns, conditions, order, hname, hcolumns, hconditions, horder, rfl⟩ :=
      Select.statement_cases h
    have hcolumns : AllWithin q.names columns.pieces :=
      Sql.Columns.allWithin_pieces hcolumns fun name hmem => by simp [Select.names, hmem]
    have hwhere : AllWithin q.names (Sql.Predicate.wherePieces conditions) :=
      Sql.Filter.allWithin_wherePieces hconditions fun name hmem => by simp [Select.names, hmem]
    have horder : AllWithin q.names (Sql.SortTerm.clausePieces order) :=
      Sql.SortTerm.allWithin_clausePieces horder fun name hmem => by
        rw [Select.names, List.mem_cons, List.mem_append, List.mem_append]
        exact .inr (.inr (.inr hmem))
    have hpage : AllWithin q.names q.query.page.pieces := Sql.Page.allWithin_pieces _
    exact .fixed_cons (by decide) (hcolumns.append (.fixed_cons (by decide) (.cons (htable hname)
      (hwhere.spaced.append (horder.spaced.append hpage.spaced)))))
  | count q =>
    obtain ⟨table, conditions, hname, hconditions, rfl⟩ := Select.countStatement_cases h
    have hwhere : AllWithin q.names (Sql.Predicate.wherePieces conditions) :=
      Sql.Filter.allWithin_wherePieces hconditions fun name hmem => by simp [Select.names, hmem]
    exact .fixed_cons (by decide) (.cons (htable hname) hwhere.spaced)
  | insert i =>
    obtain ⟨table, returning, values, hname, hreturning, hvalues, rfl⟩ := Insert.statement_cases h
    have hreturning : AllWithin i.names (Sql.returningPieces returning) :=
      returningColumns_within hreturning fun name hmem => by simp [Insert.names, hmem]
    have hcolumns : ∀ v ∈ values, v.1.name ∈ i.names :=
      Insert.slots_within hvalues fun name hmem => by
        rw [Insert.names, List.mem_cons, List.mem_append]
        exact .inr (.inl hmem)
    cases values with
    | nil =>
      exact .fixed_cons (by decide) (.cons (htable hname) (.fixed_cons (by decide)
        hreturning.spaced))
    | cons value rest =>
      have hlist : AllWithin i.names (Sql.Identifier.listPieces ((value :: rest).map (·.1))) :=
        Sql.Identifier.allWithin_listPieces (List.forall_mem_map.mpr hcolumns)
      exact .fixed_cons (by decide) (.cons (htable hname) (.fixed_cons (by decide) (hlist.append
        (.fixed_cons (by decide) ((Piece.allWithin_placeholders _).append
          (.fixed_cons (by decide) hreturning.spaced))))))
  | update u =>
    obtain ⟨table, assignments, conditions, returning, hname, _, _, hassigned, hconditions,
      hreturning, rfl⟩ := Update.statement_cases h
    have hset : ∀ part ∈ Sql.Assigned.piecesOf assignments, AllWithin u.names part :=
      Update.assigned_within hassigned hexpressions fun name hmem => by
        rw [Update.names, List.mem_cons, List.mem_append]
        exact .inr (.inl hmem)
    have hwhere : AllWithin u.names (Sql.Predicate.wherePieces conditions) :=
      Sql.Filter.allWithin_wherePieces hconditions fun name hmem => by simp [Update.names, hmem]
    have hreturning : AllWithin u.names (Sql.returningPieces returning) :=
      returningColumns_within hreturning fun name hmem => by simp [Update.names, hmem]
    exact .fixed_cons (by decide) (.cons (htable hname) (.fixed_cons (by decide)
      ((AllWithin.joined (by decide) hset).append (hwhere.spaced.append hreturning.spaced))))
  | delete d =>
    obtain ⟨table, conditions, returning, hname, _, hconditions, hreturning, rfl⟩ :=
      Delete.statement_cases h
    have hwhere : AllWithin d.names (Sql.Predicate.wherePieces conditions) :=
      Sql.Filter.allWithin_wherePieces hconditions fun name hmem => by simp [Delete.names, hmem]
    have hreturning : AllWithin d.names (Sql.returningPieces returning) :=
      returningColumns_within hreturning fun name hmem => by simp [Delete.names, hmem]
    exact .fixed_cons (by decide) (.cons (htable hname) (hwhere.spaced.append hreturning.spaced))

/-- **Quotes hold given names.** Whenever a draft without expressions renders, its text is printable
ASCII without apostrophe, semicolon and slashes, and no two minus signs stand next to each other. The
double quotes of the text come in pairs, and between the quotes of each pair stands a name that was
given for the draft: one to sixty-three letters, digits and underscores, the first no digit. -/
theorem Draft.text_quotes_given_names {d : Draft} {b : Builder} {r : Sql.Rendered}
    (hexpression : d.expressions = []) (hbuild : d.build = .ok b) (hrender : b.render = .ok r) :
    (∀ c ∈ r.text.toList, Sql.IsPlain c) ∧ ¬['-', '-'] <:+: r.text.toList ∧
      r.text.toList.count '"' = 2 * (Sql.quotedNames r.text).length ∧
      ∀ name ∈ Sql.quotedNames r.text, Sql.IsName name ∧ name ∈ d.names := by
  rw [Builder.render_eq] at hrender
  obtain ⟨s, hstatement, rfl⟩ := map_eq_ok.mp hrender
  have hnone : b.expressions = [] := by
    refine List.eq_nil_iff_forall_not_mem.mpr fun sql hmem => ?_
    have hgiven := Draft.build_expressions hbuild sql hmem
    rw [hexpression] at hgiven
    cases hgiven
  have hwithin := Builder.statement_within hstatement hnone
  obtain ⟨hplain, hsigned⟩ := hwithin.charsOf_plain 1
  obtain ⟨hquoted, hcount⟩ := hwithin.quotedFrom_charsOf 1
  rw [s.charsOf_pieces] at hplain hsigned hquoted hcount
  have hnames : Sql.quotedNames s.text = (Piece.names s.pieces).map (·.name) := hquoted
  refine ⟨hplain, hsigned.not_infix, ?_, fun name hmem => ?_⟩
  · rw [Sql.Statement.render, hnames, List.length_map]
    exact hcount
  · rw [Sql.Statement.render, hnames] at hmem
    obtain ⟨i, hi, rfl⟩ := List.mem_map.mp hmem
    exact ⟨i.isName, Draft.build_names hbuild (hwithin.mem_given hi)⟩

/-- A selection with a name in every place, a type of several words and a page before the first
row. -/
theorem Draft.text_quotes_given_names_select :
    let d : Draft := .select "item" [.columns ["a"], .columnType "b" "timestamp with time zone",
      .filter (.or [.eq "b" (.string "'; --"), .isNull "c"]), .orderBy "d" .ascending, .limit (-1),
      .offset (-2)]
    d.expressions = [] ∧ ∃ b r, d.build = .ok b ∧ b.render = .ok r ∧
      r.text = "SELECT \"a\" FROM \"item\" WHERE (\"b\" = $1::timestamp with time zone OR " ++
        "\"c\" IS NULL) ORDER BY \"d\" ASC LIMIT -1 OFFSET -2" ∧
      Sql.quotedNames r.text = ["a", "item", "b", "c", "d"] ∧
      (∀ c ∈ r.text.toList, Sql.IsPlain c) ∧ ¬['-', '-'] <:+: r.text.toList ∧
      ∀ name ∈ Sql.quotedNames r.text, Sql.IsName name ∧ name ∈ d.names := by
  intro d
  obtain ⟨b, hbuild⟩ : ∃ b, d.build = .ok b := ⟨_, rfl⟩
  obtain ⟨r, hrender⟩ : ∃ r, b.render = .ok r := by cases hbuild; exact ⟨_, rfl⟩
  obtain ⟨hplain, hminus, _, hnames⟩ := text_quotes_given_names rfl hbuild hrender
  have htext : r.text = "SELECT \"a\" FROM \"item\" WHERE (\"b\" = $1::timestamp with time zone OR " ++
        "\"c\" IS NULL) ORDER BY \"d\" ASC LIMIT -1 OFFSET -2" := by
    cases hbuild
    cases hrender
    decide
  refine ⟨rfl, b, r, hbuild, hrender, htext, ?_, hplain, hminus, hnames⟩
  rw [htext]
  decide +kernel

end Store

end Rowgate
