import Rowgate.Proofs.Clauses
import Rowgate.Proofs.Decimals
import Rowgate.Proofs.Placeholder
/-
Two selections with one text.

A text is all that the database is sent of a selection beside the values, so nothing of the selection
may depend on what is not in it. The clauses are read back from the text, and each of them tells what
it was written from: lists are told by their commas, since none of their members holds one, names by
their quotes, and numbers by their digits. So two selections that render to the same text ask for the
same table, columns, order and page, and bind equally many values under the same conditions
(`Select.told_by_text`).

A list of columns that is empty or has a star in it asks for all columns, however it is written, so
it is not the names given that are told but those wanted.
-/
set_option autoImplicit false

namespace Rowgate

/-! ## Lists between separators -/

section Separated

variable {α : Type} {mark : α}

/-- What stands in front of the first mark, and what stands behind it. -/
theorem append_cons_inj {a a' b b' : List α} (ha : mark ∉ a) (ha' : mark ∉ a')
    (h : a ++ mark :: b = a' ++ mark :: b') : a = a' ∧ b = b' := by
  induction a generalizing a' with
  | nil =>
    cases a' with
    | nil => exact ⟨rfl, (List.cons.inj h).2⟩
    | cons x a' => exact absurd ((List.cons.inj h).1 ▸ List.mem_cons_self) ha'
  | cons x a ih =>
    cases a' with
    | nil => exact absurd ((List.cons.inj h).1 ▸ List.mem_cons_self) ha
    | cons y a' =>
      obtain ⟨rfl, htail⟩ := List.cons.inj h
      have hrest := ih (fun hmem => ha (List.mem_cons_of_mem _ hmem))
        (fun hmem => ha' (List.mem_cons_of_mem _ hmem)) htail
      exact ⟨congrArg (x :: ·) hrest.1, hrest.2⟩

/-- Lists are told by what they are joined to, if the separator starts with a mark that none of them
holds. -/
theorem intercalate_inj {behind : List α} {xs ys : List (List α)} (hxs : ∀ x ∈ xs, mark ∉ x)
    (hys : ∀ y ∈ ys, mark ∉ y) (hx : xs ≠ []) (hy : ys ≠ [])
    (h : (mark :: behind).intercalate xs = (mark :: behind).intercalate ys) : xs = ys := by
  induction xs generalizing ys with
  | nil => exact absurd rfl hx
  | cons x xs ih =>
    cases ys with
    | nil => exact absurd rfl hy
    | cons y ys =>
      obtain ⟨hxmark, hxrest⟩ := List.forall_mem_cons.mp hxs
      obtain ⟨hymark, hyrest⟩ := List.forall_mem_cons.mp hys
      cases xs with
      | nil =>
        cases ys with
        | nil => simpa using h
        | cons y' ys =>
          rw [List.intercalate_singleton, List.intercalate_cons_cons, List.append_assoc] at h
          exact absurd (h ▸ List.mem_append_right _ List.mem_cons_self) hxmark
      | cons x' xs =>
        cases ys with
        | nil =>
          rw [List.intercalate_singleton, List.intercalate_cons_cons, List.append_assoc] at h
          exact absurd (h ▸ List.mem_append_right _ List.mem_cons_self) hymark
        | cons y' ys =>
          rw [List.intercalate_cons_cons, List.intercalate_cons_cons, List.append_assoc,
            List.append_assoc] at h
          obtain ⟨rfl, hrest⟩ := append_cons_inj hxmark hymark h
          have htail : (mark :: behind).intercalate (x' :: xs) =
              (mark :: behind).intercalate (y' :: ys) := List.append_cancel_left hrest
          exact congrArg (x :: ·) (ih hxrest hyrest (by simp) (by simp) htail)

end Separated

/-- What a list was worked through to can be read back, if every element can. -/
theorem mapM_recovers {ε α β : Type} {f : α → Except ε β} {g : β → α}
    (hback : ∀ x y, f x = .ok y → g y = x) {xs : List α} {ys : List β} (h : xs.mapM f = .ok ys) :
    ys.map g = xs := by
  have hpairs := mapM_eq_ok h
  clear h
  induction hpairs with
  | nil => rfl
  | cons hone _ ih => rw [List.map_cons, hback _ _ hone, ih]

namespace Sql

/-! ## What a clause tells -/

/-- Behind the same word texts are the same. -/
theorem append_word_inj {word a b : String} (h : (word ++ a).toList = (word ++ b).toList) :
    a = b := by
  rw [String.toList_append, String.toList_append] at h
  exact String.toList_inj.mp (List.append_cancel_left h)

/-- Words are told by the list in which they stand, if none of them holds a comma. -/
theorem words_inj {words words' : List String} (h : ∀ word ∈ words, ',' ∉ word.toList)
    (h' : ∀ word ∈ words', ',' ∉ word.toList) (hne : words ≠ []) (hne' : words' ≠ [])
    (heq : String.intercalate ", " words = String.intercalate ", " words') : words = words' := by
  have hchars := String.toList_inj.mpr heq
  rw [String.toList_intercalate, String.toList_intercalate] at hchars
  have hlists : words.map String.toList = words'.map String.toList :=
    intercalate_inj (List.forall_mem_map.mpr h) (List.forall_mem_map.mpr h') (by simpa using hne)
      (by simpa using hne') hchars
  exact List.map_injective_iff.mpr (fun _ _ => String.toList_inj.mp) hlists

/-- A number is told by its digits. -/
theorem toString_int_inj {n n' : Int} (h : toString n = toString n') : n = n' := by
  -- both are numbers of the range between them
  have hread : ∀ m : Int, min n n' ≤ m → m ≤ max n n' →
      Text.IntegerRange.read? ⟨"", min n n', max n n'⟩ (toString m) = some m := by
    intro m hleast hgreatest
    refine Text.IntegerRange.read?_toString ?_
    rw [Text.IntegerRange.contains, Bool.and_eq_true, decide_eq_true_eq, decide_eq_true_eq]
    exact ⟨hleast, hgreatest⟩
  have hn := hread n (Int.min_le_left _ _) (Int.le_max_left _ _)
  rw [h, hread n' (Int.min_le_right _ _) (Int.le_max_right _ _)] at hn
  exact (Option.some.inj hn).symm

theorem Identifier.eq_of_name {i i' : Identifier} (h : i.name = i'.name) : i = i' :=
  Except.ok.inj ((ofName_eq_ok.mpr rfl).symm.trans (ofName_eq_ok.mpr h.symm))

theorem Identifier.eq_of_quoted {i i' : Identifier} (h : i.quoted = i'.quoted) : i = i' := by
  have hchars := String.toList_inj.mpr h
  rw [i.toList_quoted, i'.toList_quoted] at hchars
  exact eq_of_name (String.toList_inj.mp (List.append_cancel_right (List.cons.inj hchars).2))

theorem Identifier.comma_notMem_quoted (i : Identifier) : ',' ∉ i.quoted.toList := by
  have hname : ',' ∉ i.name.toList := i.notMem_name (by decide)
  rw [i.toList_quoted]
  simp [hname]

theorem Columns.quotedNames_text (names : List Identifier) :
    quotedNames (Columns.named names).text = names.map (·.name) := by
  have hlist := Identifier.quotedFrom_listPieces names 1 []
  rw [List.append_nil, Identifier.charsOf_listPieces, quotedFrom, List.append_nil] at hlist
  exact hlist

/-- Columns are told by their text, as long as there are any. -/
theorem Columns.eq_of_text {c c' : Columns} (hne : c ≠ .named []) (hne' : c' ≠ .named [])
    (h : c.text = c'.text) : c = c' := by
  have hquoted := congrArg quotedNames h
  cases c with
  | all =>
    cases c' with
    | all => rfl
    | named names' =>
      -- nothing is quoted in a star
      rw [quotedNames_text] at hquoted
      exact absurd (congrArg named (List.map_eq_nil_iff.mp hquoted.symm)) hne'
  | named names =>
    rw [quotedNames_text] at hquoted
    cases c' with
    | all => exact absurd (congrArg named (List.map_eq_nil_iff.mp hquoted)) hne
    | named names' =>
      rw [quotedNames_text] at hquoted
      rw [List.map_injective_iff.mpr (fun _ _ => Identifier.eq_of_name) hquoted]

theorem SortTerm.eq_of_text {t t' : SortTerm} (h : t.text = t'.text) : t = t' := by
  obtain ⟨column, direction⟩ := t
  obtain ⟨column', direction'⟩ := t'
  have hchars := String.toList_inj.mpr h
  simp only [text, String.toList_append, Identifier.toList_quoted, List.cons_append,
    List.append_assoc, List.cons.injEq, true_and, List.nil_append] at hchars
  -- the quote behind a name is the first one in it
  have hquote : ∀ i : Identifier, '"' ∉ i.name.toList := fun i => i.notMem_name (by decide)
  obtain ⟨hname, hkeyword⟩ := append_cons_inj (hquote column) (hquote column') hchars
  rw [Identifier.eq_of_name (String.toList_inj.mp hname)]
  have hdirection : direction = direction' := by
    revert hkeyword
    cases direction <;> cases direction' <;> decide
  rw [hdirection]

theorem SortTerm.comma_notMem_text (t : SortTerm) : ',' ∉ t.text.toList := by
  have hname := t.column.comma_notMem_quoted
  rw [text, String.toList_append, String.toList_append]
  cases t.direction <;> simp [hname, Direction.keyword]

/-- An order is told by its clause. -/
theorem SortTerm.eq_of_clause {terms terms' : List SortTerm} (h : clause terms = clause terms') :
    terms = terms' := by
  cases terms with
  | nil =>
    cases terms' with
    | nil => rfl
    | cons t' ts' => simp [clause] at h
  | cons t ts =>
    cases terms' with
    | nil => simp [clause] at h
    | cons t' ts' =>
      rw [clause, clause, if_neg (by simp), if_neg (by simp)] at h
      have hlist := append_word_inj (String.toList_inj.mpr h)
      have hcomma : ∀ ts : List SortTerm, ∀ word ∈ ts.map text, ',' ∉ word.toList :=
        fun ts => List.forall_mem_map.mpr fun t _ => t.comma_notMem_text
      have hwords := words_inj (hcomma (t :: ts)) (hcomma (t' :: ts')) (by simp) (by simp) hlist
      exact List.map_injective_iff.mpr (fun _ _ => eq_of_text) hwords

/-! ## What was checked -/

/-- The names of a list of columns, and a star for all of them. -/
def Columns.names : Columns → List String
  | .all => ["*"]
  | .named columns => columns.map (·.name)

/-- The columns that names ask for: no name, or a star among them, asks for all. -/
def wantedColumns (names : List String) : List String :=
  if names.isEmpty || names.contains "*" then ["*"] else names

theorem Columns.names_of_ofNames {names : List String} {columns : Columns}
    (h : ofNames names = .ok columns) : columns.names = wantedColumns names ∧
      columns ≠ .named [] := by
  rw [ofNames] at h
  rw [wantedColumns]
  split at h
  · next hall =>
    cases h
    rw [if_pos hall]
    exact ⟨rfl, nofun⟩
  · next hsome =>
    rw [if_neg hsome]
    obtain ⟨identifiers, hidentifiers, h⟩ := bind_eq_ok.mp h
    cases h
    have hnames : identifiers.map (·.name) = names :=
      mapM_recovers (fun _ _ => Identifier.ofName_eq_ok.mp) hidentifiers
    refine ⟨hnames, fun hempty => hsome ?_⟩
    rw [← hnames, Columns.named.inj hempty]
    rfl

theorem SortTerm.order_of_ofNames {order : List (String × Direction)} {terms : List SortTerm}
    (h : ofNames order = .ok terms) :
    terms.map (fun t => (t.column.name, t.direction)) = order := by
  refine mapM_recovers (fun entry term hone => ?_) h
  obtain ⟨column, hcolumn, hone⟩ := bind_eq_ok.mp hone
  cases hone
  rw [Identifier.ofName_eq_ok.mp hcolumn]

/-- A statement binds as many values as its text has placeholders. -/
theorem Statement.length_marks (s : Statement) (h : s.expressions = []) :
    (marks s.text).length = s.values.length := by
  have horder := s.orderly_pieces fun sql hsql => by rw [h] at hsql; cases hsql
  have hmarks := Piece.marksFrom_charsOf s.pieces 1 [] none horder fun i hi => by cases hi
  rw [marks, ← s.charsOf_pieces, ← hmarks.length_eq, List.length_zipIdx, values, ← s.slots_pieces,
    ← Piece.map_bound, List.length_map, List.length_map]

/-- No registered type has a space in its name. -/
def SolidTypes (types : Keyed String) : Prop :=
  ∀ column type, Keyed.get? column types = some type → ' ' ∉ type.toList

/-- The slots of checked filters are cast to types that were registered. -/
theorem Filter.checkAll_solid {types : Keyed String} (htypes : SolidTypes types)
    {fs : List Filter} {ps : List Predicate} (h : Filter.checkAll types fs = .ok ps) :
    ∀ s ∈ Predicate.slotsOf ps, s.IsSolid := by
  have hbound : ∀ bound ∈ Piece.bound (Predicate.wherePieces ps), bound.2.IsSolid := by
    refine ((List.forall₂_and_left _ _).mp
      ((checkAll_operands h).flip.imp fun bound o hfits => ⟨fun type hcast => ?_, hfits⟩)).1
    have hget := hfits.cast
    rw [hcast, Option.map_some] at hget
    exact htypes o.column type.name hget.symm
  rw [← Predicate.slots_wherePieces, ← Piece.map_bound]
  exact List.forall_mem_map.mpr hbound

end Sql

/-! ## Main result -/

namespace Store

/-- The columns that a selection asks for. -/
def Select.wanted (s : Select) : List String := Sql.wantedColumns s.columns

/-- What a selection that renders has checked, and what its text tells of it. -/
theorem Select.read?_render {s : Select} (htypes : Sql.SolidTypes s.query.columnTypes)
    {r : Sql.Rendered} (h : s.render = .ok r) :
    ∃ (table : Sql.Identifier) (columns : Sql.Columns) (conditions : List Sql.Predicate)
      (order : List Sql.SortTerm),
      table.name = s.table ∧ columns.names = s.wanted ∧ columns ≠ .named [] ∧
      s.query.whereClause 1 = .ok ⟨Sql.Predicate.whereClause 1 conditions, r.values⟩ ∧
      order.map (fun t => (t.column.name, t.direction)) = s.query.order ∧
      (Sql.marks r.text).length = r.values.length ∧
      (Sql.Clause.split r.text.toList).1 = ("SELECT " ++ columns.text).toList ∧
      ∀ clause : Sql.Clause, clause.read? r.text.toList =
        clause.text table conditions order s.query.page := by
  obtain ⟨statement, hstatement, rfl⟩ := map_eq_ok.mp h
  obtain ⟨table, columns, conditions, order, htable, hcolumns, hconditions, horder, rfl⟩ :=
    Select.statement_cases hstatement
  obtain ⟨hnames, hne⟩ := Sql.Columns.names_of_ofNames hcolumns
  refine ⟨table, columns, conditions, order, Sql.Identifier.ofName_eq_ok.mp htable, hnames, hne,
    ?_, Sql.SortTerm.order_of_ofNames horder, Sql.Statement.length_marks _ rfl,
    Sql.Statement.read?_select (Sql.Filter.checkAll_solid htypes hconditions) hne⟩
  rw [Sql.Query.whereClause, Sql.Query.predicates, hconditions]
  rfl

/-- **Selections are told by their text.** If two selections, of which no registered type has a space
in its name, render to the same text, then they have the same table, want the same columns, have the
same `WHERE` clause, order, limit and offset, and bind equally many values. -/
theorem Select.told_by_text {s s' : Select} (htypes : Sql.SolidTypes s.query.columnTypes)
    (htypes' : Sql.SolidTypes s'.query.columnTypes) {r r' : Sql.Rendered}
    (hrender : s.render = .ok r) (hrender' : s'.render = .ok r') (htext : r.text = r'.text) :
    s.table = s'.table ∧ s.wanted = s'.wanted ∧ s.query.order = s'.query.order ∧
      s.query.page.limit = s'.query.page.limit ∧ s.query.page.offset = s'.query.page.offset ∧
      r.values.length = r'.values.length ∧
      ∃ clause, s.query.whereClause 1 = .ok ⟨clause, r.values⟩ ∧
        s'.query.whereClause 1 = .ok ⟨clause, r'.values⟩ := by
  obtain ⟨table, columns, conditions, order, hname, hcolumns, hne, hwhere, horder, hmarks, hhead,
    hread⟩ := Select.read?_render htypes hrender
  obtain ⟨table', columns', conditions', order', hname', hcolumns', hne', hwhere', horder', hmarks',
    hhead', hread'⟩ := Select.read?_render htypes' hrender'
  rw [htext] at hmarks hhead
  have hclause : ∀ clause : Sql.Clause, clause.text table conditions order s.query.page =
      clause.text table' conditions' order' s'.query.page := by
    intro clause
    rw [← hread, ← hread', htext]
  have hwanted : columns = columns' :=
    Sql.Columns.eq_of_text hne hne' (Sql.append_word_inj (hhead.symm.trans hhead'))
  have htable : table = table' :=
    Sql.Identifier.eq_of_quoted (Sql.append_word_inj (Option.some.inj (hclause .table)))
  have hconditions := Sql.present_inj (hclause .conditions)
  have hsorted : order = order' := Sql.SortTerm.eq_of_clause (Sql.present_inj (hclause .order))
  have hnumber : ∀ word : String, Function.Injective fun n : Int => (word ++ toString n).toList :=
    fun word n n' h => Sql.toString_int_inj (Sql.append_word_inj h)
  refine ⟨?_, ?_, ?_, Option.map_injective (hnumber _) (hclause .limit),
    Option.map_injective (hnumber _) (hclause .offset), hmarks.symm.trans hmarks', _, hwhere, ?_⟩
  · rw [← hname, ← hname', htable]
  · rw [← hcolumns, ← hcolumns', hwanted]
  · rw [← horder, ← horder', hsorted]
  · rw [hwhere', hconditions]

/-- Two selections that ask for all columns in two ways and bind different values. Their names are
the keywords of clauses, and so is the type. -/
theorem Select.told_by_text_keywords :
    let query : Sql.Query := { order := [("LIMIT", .descending)], page := ⟨some (-1), none⟩
                               columnTypes := [("WHERE", "OFFSET")] }
    let s : Select := { table := "FROM"
                        query := { query with filters := [.eq "WHERE" (.int 1)] } }
    let s' : Select := { table := "FROM", columns := ["a", "*"]
                         query := { query with filters := [.eq "WHERE" (.string "2")] } }
    ∃ r r', s.render = .ok r ∧ s'.render = .ok r' ∧ r.text = r'.text ∧
      r.text =
        "SELECT * FROM \"FROM\" WHERE \"WHERE\" = $1::OFFSET ORDER BY \"LIMIT\" DESC LIMIT -1" ∧
      s.wanted = s'.wanted ∧ r.values.length = r'.values.length := by
  intro query s s'
  let text := "SELECT * FROM \"FROM\" WHERE \"WHERE\" = $1::OFFSET ORDER BY \"LIMIT\" DESC LIMIT -1"
  obtain ⟨r, hrender, htext⟩ : ∃ r, s.render = .ok r ∧ r.text = text := by
    dsimp only [s, query]
    exact ⟨_, rfl, by decide⟩
  obtain ⟨r', hrender', htext'⟩ : ∃ r', s'.render = .ok r' ∧ r'.text = text := by
    dsimp only [s', query]
    exact ⟨_, rfl, by decide⟩
  have hsame : r.text = r'.text := htext.trans htext'.symm
  have htypes : Sql.SolidTypes query.columnTypes := by
    intro column type htype
    obtain ⟨rfl, rfl⟩ : column = "WHERE" ∧ type = "OFFSET" := by
      simpa [query, Keyed.get?, eq_comm] using htype
    decide
  obtain ⟨_, hwanted, _, _, _, hlength, _⟩ :=
    told_by_text htypes htypes hrender hrender' hsame
  exact ⟨r, r', hrender, hrender', hsame, htext, hwanted, hlength⟩

/-- A type with a space in its name can pass for a clause. -/
example :
    let select (type : String) (page : Sql.Page) : Select :=
      { table := "t"
        query := { filters := [.eq "a" .null], page, columnTypes := [("a", type)] } }
    (select "int LIMIT 5" {}).render = (select "int" ⟨some 5, none⟩).render := by
  decide

end Store

end Rowgate
