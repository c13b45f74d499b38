import Rowgate.Proofs.Draft
import Rowgate.Proofs.Spacing
/-
Placeholders: which value a text binds where.

The reader of a statement sees a text and a list of values. It finds the placeholders by their `$`
and knows nothing of slots. `marks` is that reader: for each `$` of a text the digits behind it, what
stands in front of it and what follows. The reader is right about every statement that a draft
renders to: the numbers count from one without a gap, the values are the builder's operands, and the
mark of an operand's number stands at the operand's column and is cast to the type that was
registered for the column last.

In an insertion the columns stand in a list of their own, and the column of a placeholder is the name
at its number, the table being the name at zero. In every other statement it is the name quoted last.
An expression is written into a text as it is, so nothing can be said if one holds a `$`.
-/
set_option autoImplicit false

namespace Rowgate

namespace Sql

/-! ## Reading placeholders off a text -/

/-- A `$` in a text: the text in front of it, last character first, the digits behind it, and the
text behind those. -/
structure Mark where
  before : List Char
  digits : List Char
  behind : List Char

/-- The marks of a text that stands behind another one, which is given last character first. -/
def marksFrom (before : List Char) : List Char → List Mark
  | [] => []
  | c :: cs =>
    let later := marksFrom (c :: before) cs
    if c = '$' then ⟨before, cs.takeWhile Char.isDigit, cs.dropWhile Char.isDigit⟩ :: later
    else later

/-- The marks of a text, from left to right. -/
def marks (text : String) : List Mark := marksFrom [] text.toList

/-- The name quoted last in a text that is given last character first. -/
def lastQuoted (before : List Char) : Option String :=
  match before.dropWhile (· != '"') with
  | [] => none
  | _ :: rest => some (String.ofList (rest.takeWhile (· != '"')).reverse)

/-- The names quoted in a text, behind the characters of an open name, last one first. -/
def quotedFrom : Option (List Char) → List Char → List String
  | _, [] => []
  | none, c :: cs => if c = '"' then quotedFrom (some []) cs else quotedFrom none cs
  | some name, c :: cs =>
    if c = '"' then String.ofList name.reverse :: quotedFrom none cs
    else quotedFrom (some (c :: name)) cs

/-- The names quoted in a text, from left to right. -/
def quotedNames (text : String) : List String := quotedFrom none text.toList

/-- Behind the digits stand the cast and a character that ends a placeholder, or nothing more. -/
def Mark.CastTo (type : Option String) (m : Mark) : Prop :=
  ∃ rest, m.behind = castChars type ++ rest ∧ Stops rest

/-! ## One piece at a time -/

theorem marksFrom_append {before cs rest : List Char} (h : '$' ∉ cs) :
    marksFrom before (cs ++ rest) = marksFrom (cs.reverse ++ before) rest := by
  induction cs generalizing before with
  | nil => rfl
  | cons c cs ih =>
    have hc : c ≠ '$' := fun heq => h (heq ▸ List.mem_cons_self)
    rw [List.cons_append, marksFrom, if_neg hc, ih fun hmem => h (List.mem_cons_of_mem _ hmem),
      List.reverse_cons, List.append_assoc]
    rfl

theorem lastQuoted_append {before cs : List Char} (h : '"' ∉ cs) :
    lastQuoted (cs.reverse ++ before) = lastQuoted before := by
  have hreverse : '"' ∉ cs.reverse := fun hmem => h (List.mem_reverse.mp hmem)
  rw [lastQuoted, List.dropWhile_append_of_pos (bne_of_notMem hreverse), ← lastQuoted]

theorem quotedFrom_append {cs rest : List Char} (h : '"' ∉ cs) :
    quotedFrom none (cs ++ rest) = quotedFrom none rest := by
  induction cs with
  | nil => rfl
  | cons c cs ih =>
    have hc : c ≠ '"' := fun heq => h (heq ▸ List.mem_cons_self)
    rw [List.cons_append, quotedFrom, if_neg hc, ih fun hmem => h (List.mem_cons_of_mem _ hmem)]

theorem Identifier.dollar_notMem_quoted (i : Identifier) : '$' ∉ i.quoted.toList := by
  have hname : '$' ∉ i.name.toList := i.notMem_name (by decide)
  rw [i.toList_quoted]
  simp [hname]

theorem Identifier.lastQuoted_quoted (i : Identifier) (before : List Char) :
    lastQuoted (i.quoted.toList.reverse ++ before) = some i.name := by
  have hname : '"' ∉ i.name.toList.reverse :=
    fun hmem => i.notMem_name (by decide) (List.mem_reverse.mp hmem)
  have hreverse : i.quoted.toList.reverse ++ before =
      '"' :: (i.name.toList.reverse ++ '"' :: before) := by
    rw [i.toList_quoted]
    simp
  rw [hreverse, lastQuoted, List.dropWhile_cons_of_neg (by simp)]
  simp only [List.takeWhile_append_of_pos (bne_of_notMem hname)]
  rw [List.takeWhile_cons_of_neg (by simp), List.append_nil, List.reverse_reverse,
    String.ofList_toList]

theorem Identifier.quotedFrom_quoted (i : Identifier) (rest : List Char) :
    quotedFrom none (i.quoted.toList ++ rest) = i.name :: quotedFrom none rest := by
  -- letters are collected up to the closing quote
  have hread : ∀ (cs name : List Char), '"' ∉ cs →
      quotedFrom (some name) (cs ++ '"' :: rest) =
        String.ofList (name.reverse ++ cs) :: quotedFrom none rest := by
    intro cs
    induction cs with
    | nil => intro name _; rw [List.nil_append, quotedFrom, if_pos rfl, List.append_nil]
    | cons c cs ih =>
      intro name h
      have hc : c ≠ '"' := fun heq => h (heq ▸ List.mem_cons_self)
      rw [List.cons_append, quotedFrom, if_neg hc,
        ih (c :: name) fun hmem => h (List.mem_cons_of_mem _ hmem), List.reverse_cons,
        List.append_assoc]
      rfl
  rw [i.toList_quoted, List.cons_append, List.append_assoc, quotedFrom, if_pos rfl,
    List.cons_append, List.nil_append, hread _ _ (i.notMem_name (by decide)), List.reverse_nil,
    List.nil_append, String.ofList_toList]

/-- What stands in a placeholder behind its `$`. -/
theorem Slot.tail_notMem {c : Char} (hdigit : c.isDigit = false) (hcolon : c ≠ ':')
    (htype : isTypeChar c = false) (s : Slot) (number : Nat) :
    c ∉ (toString number).toList ++ castChars (s.cast.map (·.name)) := by
  rw [List.mem_append]
  rintro (hmem | hmem)
  · rw [isDigit_of_mem_toString hmem] at hdigit
    cases hdigit
  · cases hcast : s.cast with
    | none => rw [hcast] at hmem; cases hmem
    | some type =>
      rw [hcast] at hmem
      simp only [Option.map_some, castChars, List.mem_cons] at hmem
      rcases hmem with h | h | h
      · exact hcolon h
      · exact hcolon h
      · rw [type.isTypeChar_of_mem h] at htype
        cases htype

theorem Slot.quote_notMem_text (s : Slot) (number : Nat) : '"' ∉ (s.text number).toList := by
  have htail := s.tail_notMem (by decide : '"'.isDigit = false) (by decide) (by decide) number
  rw [s.toList_text]
  simpa using htail

/-- No digit stands behind the digits of a placeholder. -/
theorem Slot.not_isDigit_behind (s : Slot) {rest : List Char} (hrest : Stops rest) :
    ∀ c ∈ (castChars (s.cast.map (·.name)) ++ rest).head?, c.isDigit = false := by
  -- a cast starts with a colon, and without one the placeholder ends at once
  intro c hc
  cases hcast : s.cast with
  | none =>
    rw [hcast] at hc
    have hstop := hrest c hc
    simp only [isStop, Bool.or_eq_true, beq_iff_eq] at hstop
    rcases hstop with (rfl | rfl) | rfl <;> decide
  | some type =>
    rw [hcast] at hc
    cases hc
    decide

/-- The mark of a placeholder, in front of what ends it. -/
theorem Slot.marksFrom_text (s : Slot) (number : Nat) (before : List Char) {rest : List Char}
    (hrest : Stops rest) :
    marksFrom before ((s.text number).toList ++ rest) =
      ⟨before, (toString number).toList, castChars (s.cast.map (·.name)) ++ rest⟩ ::
        marksFrom ((s.text number).toList.reverse ++ before) rest := by
  have htail := s.tail_notMem (by decide : '$'.isDigit = false) (by decide) (by decide) number
  have hend := s.not_isDigit_behind hrest
  obtain ⟨htake, hdrop⟩ := span_toString number hend
  rw [s.toList_text, List.cons_append, marksFrom, if_pos rfl, List.append_assoc, htake, hdrop,
    ← List.append_assoc, marksFrom_append htail, List.reverse_cons, List.append_assoc]
  rfl

/-! ## Marks of pieces -/

namespace Piece

/-- Behind a placeholder its end is seen in the text. -/
theorem Stop.stops {ps : List Piece} (h : Stop ps) (first : Nat) : Stops (charsOf first ps) := by
  cases ps with
  | nil =>
    intro c hc
    cases hc
  | cons p rest =>
    cases p with
    | fixed text =>
      obtain ⟨hne, hstops⟩ := h
      cases hcs : text.toList with
      | nil => exact absurd (String.toList_eq_nil_iff.mp hcs) hne
      | cons c cs =>
        rw [hcs] at hstops
        rw [charsOf, hcs]
        exact hstops
    | name identifier => exact h.elim
    | slot column s => exact h.elim
    | expression sql => exact h.elim

/-- The mark of a numbered slot, behind the name of its column where placeholders are led by it. -/
structure Marked (led : Prop) (place : (Identifier × Slot) × Nat) (m : Mark) : Prop where
  digits : m.digits = (toString place.2).toList
  column : led → lastQuoted m.before = some place.1.1.name
  cast : m.CastTo (place.1.2.cast.map (·.name))

/-- **The marks of pieces in order are their slots**, numbered from the first number on. -/
theorem marksFrom_charsOf {led : Prop} (ps : List Piece) (first : Nat) (before : List Char)
    (current : Option Identifier) (horder : Orderly led current ps)
    (hcurrent : ∀ i ∈ current, lastQuoted before = some i.name) :
    List.Forall₂ (Marked led) ((bound ps).zipIdx first)
      (marksFrom before (charsOf first ps)) := by
  -- the text read so far and the name quoted last in it go from piece to piece
  induction ps generalizing first before current with
  | nil => exact .nil
  | cons p rest ih =>
    cases p with
    | fixed text =>
      obtain ⟨hdollar, hquote, hrest⟩ := horder
      rw [charsOf, marksFrom_append hdollar, bound]
      refine ih first _ current hrest fun i hi => ?_
      rw [lastQuoted_append hquote]
      exact hcurrent i hi
    | name identifier =>
      rw [charsOf, marksFrom_append identifier.dollar_notMem_quoted, bound]
      refine ih first _ (some identifier) horder fun i hi => ?_
      cases hi
      exact identifier.lastQuoted_quoted before
    | slot column s =>
      obtain ⟨hcolumn, hstop, hrest⟩ := horder
      rw [charsOf, s.marksFrom_text first before (hstop.stops (first + 1)), bound,
        List.zipIdx_cons]
      -- the slot's mark, and behind it the rest with the next number
      refine .cons ⟨rfl, fun hled => ?_, _, rfl, hstop.stops (first + 1)⟩ ?_
      · exact hcurrent column (hcolumn hled)
      · refine ih (first + 1) _ current hrest fun i hi => ?_
        rw [lastQuoted_append (s.quote_notMem_text first)]
        exact hcurrent i hi
    | expression sql =>
      obtain ⟨hdollar, hrest⟩ := horder
      rw [charsOf, marksFrom_append hdollar, bound]
      -- an expression may quote anything, so nothing is known of the last name
      exact ih first _ none hrest fun i hi => by cases hi

/-- The marks of pieces in order, by their digits and the name quoted last in front of each. -/
theorem places_marksFrom {ps : List Piece} (horder : Orderly True none ps) (first : Nat) :
    (marksFrom [] (charsOf first ps)).map (fun m => (m.digits, lastQuoted m.before)) =
      ((bound ps).zipIdx first).map fun place =>
        ((toString place.2).toList, some place.1.1.name) := by
  have hmarks := marksFrom_charsOf ps first [] none horder fun i hi => by cases hi
  rw [← List.forall₂_eq_eq_eq, List.forall₂_map_left_iff, List.forall₂_map_right_iff]
  exact hmarks.flip.imp fun _ _ hone => Prod.ext hone.digits (hone.column trivial)

end Piece

/-- The names quoted in a list of names, and behind it. -/
theorem Identifier.quotedFrom_listPieces (names : List Identifier) (first : Nat)
    (rest : List Char) :
    quotedFrom none (Piece.charsOf first (listPieces names) ++ rest) =
      names.map (·.name) ++ quotedFrom none rest := by
  induction names with
  | nil => rfl
  | cons i tail ih =>
    cases tail with
    | nil =>
      rw [listPieces, List.map_cons, List.map_nil, Piece.joined, List.intercalate_singleton,
        Piece.charsOf, Piece.charsOf, List.append_nil, i.quotedFrom_quoted]
      rfl
    | cons j tail =>
      have hcomma : '"' ∉ ", ".toList := by decide
      have hstep : listPieces (i :: j :: tail) =
          .name i :: .fixed ", " :: listPieces (j :: tail) := by
        rw [listPieces, List.map_cons, List.map_cons, Piece.joined_cons_cons]
        rfl
      rw [hstep, Piece.charsOf, Piece.charsOf, List.append_assoc, i.quotedFrom_quoted,
        List.append_assoc, quotedFrom_append hcomma, ih]
      rfl

/-- The names quoted in an insertion: the table first, then the columns in the order of their
values, then the columns that are given back. -/
theorem Statement.quotedNames_insert (table : Identifier) (value : Identifier × Slot)
    (values : List (Identifier × Slot)) (returning : Option Columns) :
    ∃ later, quotedNames (Statement.insert table (value :: values) returning).text =
      table.name :: ((value :: values).map (·.1.name) ++ later) := by
  have hinsert : '"' ∉ "INSERT INTO ".toList := by decide
  have hopen : '"' ∉ " (".toList := by decide
  have hmap : (value :: values).map (·.1.name) =
      ((value :: values).map (·.1)).map (·.name) := by rw [List.map_map]; rfl
  rw [quotedNames, ← Statement.charsOf_pieces, Statement.pieces, Piece.charsOf, Piece.charsOf,
    Piece.charsOf, Piece.charsOf_append, quotedFrom_append hinsert, table.quotedFrom_quoted,
    quotedFrom_append hopen, Identifier.quotedFrom_listPieces, hmap]
  exact ⟨_, rfl⟩

end Sql

/-! ## Placeholders of drafts -/

section Places

variable {α β γ : Type} {P : α → β → Prop} {Q : β × Nat → γ → Prop} {R : α × Nat → γ → Prop}

/-- Two matchings one behind the other, the second one of numbered elements. -/
theorem forall₂_zipIdx_trans {os : List α} {bs : List β} {ms : List γ} {first : Nat}
    (hleft : List.Forall₂ P os bs) (hright : List.Forall₂ Q (bs.zipIdx first) ms)
    (h : ∀ i o b m, bs[i]? = some b → P o b → Q (b, first + i) m → R (o, first + i) m) :
    List.Forall₂ R (os.zipIdx first) ms := by
  induction hleft generalizing ms first with
  | nil =>
    cases hright
    exact .nil
  | cons hone _ ih =>
    rw [List.zipIdx_cons] at hright ⊢
    cases hright with
    | cons hmark hmarks =>
      refine .cons (h 0 _ _ _ rfl hone hmark) (ih hmarks fun i o b m hb ho hm => ?_)
      -- positions in the tail are one further in the whole
      have hshift : first + 1 + i = first + (i + 1) := by omega
      rw [hshift] at hm ⊢
      exact h (i + 1) o b m hb ho hm

end Places

namespace Store

/-- An expression is assigned as it was set. -/
theorem Update.assigned_expressions {types : Keyed String} {set : Assignments NewValue}
    {assignments : List (Sql.Identifier × Sql.Assigned)}
    (h : Update.assigned types set = .ok assignments) :
    Sql.Assigned.expressions assignments = set.filterMap fun
      | (_, .expression sql) => some sql
      | (_, .value _) => none := by
  have hpairs := mapM_eq_ok h
  clear h
  induction hpairs with
  | nil => rfl
  | @cons given assigned set assignments hone _ ih =>
    obtain ⟨column, value⟩ := given
    obtain ⟨identifier, _, hone⟩ := bind_eq_ok.mp hone
    cases value with
    | value v =>
      obtain ⟨cast, _, hone⟩ := bind_eq_ok.mp hone
      cases hone
      exact ih
    | expression sql =>
      cases hone
      exact congrArg (sql :: ·) ih

/-- The expressions of a statement are those of its builder. -/
theorem Builder.statement_expressions {b : Builder} {s : Sql.Statement} (h : b.statement = .ok s) :
    s.expressions = b.expressions := by
  cases b with
  | select q => obtain ⟨_, _, _, _, _, _, _, _, rfl⟩ := Select.statement_cases h; rfl
  | count q => obtain ⟨_, _, _, _, rfl⟩ := Select.countStatement_cases h; rfl
  | insert i => obtain ⟨_, _, _, _, _, _, rfl⟩ := Insert.statement_cases h; rfl
  | delete d => obtain ⟨_, _, _, _, _, _, _, rfl⟩ := Delete.statement_cases h; rfl
  | update u =>
    obtain ⟨_, _, _, _, _, _, _, hassigned, _, _, rfl⟩ := Update.statement_cases h
    exact Update.assigned_expressions hassigned

/-- The column that a placeholder of the builder's statement stands at. An insertion lists its
columns behind the table, and any other statement names the column in front of the placeholder. -/
def Builder.columnAt (b : Builder) (text : String) (number : Nat) (m : Sql.Mark) :
    Option String :=
  match b with
  | .insert _ => (Sql.quotedNames text)[number]?
  | _ => Sql.lastQuoted m.before

/-- A mark in a builder's text is the placeholder of an operand: it has the operand's number, stands
at the operand's column, and is cast to the type of the column, if there is one. -/
structure Builder.Binds (b : Builder) (typeOf : String → Option String) (text : String)
    (place : Sql.Operand × Nat) (m : Sql.Mark) : Prop where
  digits : m.digits = (toString place.2).toList
  column : b.columnAt text place.2 m = some place.1.column
  cast : m.CastTo (typeOf place.1.column)

/-- The placeholders of a builder's statement, by the types that the builder holds. -/
theorem Builder.binds_operands {b : Builder} {s : Sql.Statement} (h : b.statement = .ok s)
    (hexpression : ∀ sql ∈ b.expressions, '$' ∉ sql.toList) :
    List.Forall₂ (b.Binds (Keyed.get? · b.columnTypes) s.text) (b.operands.zipIdx 1)
      (Sql.marks s.text) := by
  have horder := s.orderly_pieces fun sql hsql =>
    hexpression sql (Builder.statement_expressions h ▸ hsql)
  have hmarks := Sql.Piece.marksFrom_charsOf s.pieces 1 [] none horder fun i hi => by cases hi
  rw [s.charsOf_pieces] at hmarks
  refine forall₂_zipIdx_trans (Builder.statement_operands h) hmarks ?_
  intro i o bound m hbound hfits hmarked
  refine ⟨hmarked.digits, ?_, hfits.cast ▸ hmarked.cast⟩
  have hled : s.Led → Sql.lastQuoted m.before = some o.column := by
    intro hled
    rw [hmarked.column hled, hfits.column]
  cases b with
  | select q => obtain ⟨_, _, _, _, _, _, _, _, rfl⟩ := Select.statement_cases h; exact hled trivial
  | count q => obtain ⟨_, _, _, _, rfl⟩ := Select.countStatement_cases h; exact hled trivial
  | update u =>
    obtain ⟨_, _, _, _, _, _, _, _, _, _, rfl⟩ := Update.statement_cases h
    exact hled trivial
  | delete d => obtain ⟨_, _, _, _, _, _, _, rfl⟩ := Delete.statement_cases h; exact hled trivial
  | insert q =>
    -- the columns stand behind the table, so the name at a number is that of the value
    obtain ⟨table, returning, values, _, _, _, rfl⟩ := Insert.statement_cases h
    cases values with
    | nil =>
      simp only [Sql.Statement.pieces, Sql.Piece.bound, Sql.Piece.bound_spaced,
        Sql.Piece.bound_eq_nil (Sql.slots_returningPieces returning)] at hbound
      cases hbound
    | cons value values =>
      obtain ⟨later, hnames⟩ := Sql.Statement.quotedNames_insert table value values returning
      simp only [Sql.Statement.pieces, Sql.Piece.bound, Sql.Piece.bound_append,
        Sql.Piece.bound_spaced, Sql.Piece.bound_placeholders,
        Sql.Piece.bound_eq_nil (Sql.Identifier.slots_listPieces _),
        Sql.Piece.bound_eq_nil (Sql.slots_returningPieces returning), List.nil_append,
        List.append_nil] at hbound
      -- the table is the name at zero
      have hlt : i < (value :: values).length := (List.getElem?_eq_some_iff.mp hbound).1
      have hcolumn : ((value :: values).map (·.1.name))[i]? = some o.column := by
        rw [List.getElem?_map, hbound, Option.map_some, hfits.column]
      rw [Builder.columnAt, hnames, Nat.add_comm, List.getElem?_cons_succ,
        List.getElem?_append_left (by rw [List.length_map]; exact hlt)]
      exact hcolumn

/-- **Placeholders bind operands.** Whenever a draft renders, the placeholders of the text read from
left to right are `$1`, `$2`, … up to the number of values, each once; the values are those of the
builder's operands, in order; and the placeholder of an operand's number stands at the operand's
column and is cast to the type that the steps registered last for the column, or to none if they
registered no type. -/
theorem Draft.placeholders_bind_operands {d : Draft} {b : Builder} {r : Sql.Rendered}
    (hexpression : ∀ sql ∈ d.expressions, '$' ∉ sql.toList) (hbuild : d.build = .ok b)
    (hrender : b.render = .ok r) :
    (Sql.marks r.text).map (·.digits) =
        (List.range' 1 r.values.length).map (fun n => (toString n).toList) ∧
      r.values = b.operands.map (·.value) ∧
      List.Forall₂ (b.Binds d.typeOf r.text) (b.operands.zipIdx 1) (Sql.marks r.text) := by
  rw [Builder.render_eq] at hrender
  obtain ⟨s, hstatement, rfl⟩ := map_eq_ok.mp hrender
  have htypes : (fun column => Keyed.get? column b.columnTypes) = d.typeOf :=
    funext (Draft.build_type hbuild)
  have hbinds := Builder.binds_operands hstatement fun sql hsql =>
    hexpression sql (Draft.build_expressions hbuild sql hsql)
  rw [htypes] at hbinds
  have hvalues : s.values = b.operands.map (·.value) := by
    rw [← Sql.Operand.values_of_fits (Builder.statement_operands hstatement),
      Sql.Statement.values, ← s.slots_pieces, ← Sql.Piece.map_bound, List.map_map]
    rfl
  refine ⟨?_, hvalues, hbinds⟩
  -- there are as many marks as operands, so the numbers end with the values
  have hlength : s.values.length = b.operands.length := by rw [hvalues, List.length_map]
  have hdigits : List.Forall₂ (· = ·) ((b.operands.zipIdx 1).map fun p => (toString p.2).toList)
      ((Sql.marks s.text).map (·.digits)) := by
    rw [List.forall₂_map_left_iff, List.forall₂_map_right_iff]
    exact hbinds.imp fun _ _ hone => hone.digits.symm
  rw [List.forall₂_eq_eq_eq] at hdigits
  rw [Sql.Statement.render, ← hdigits, hlength, ← List.zipIdx_map_snd, List.map_map]
  rfl

/-- An update that binds a value for a column with a type, an expression that binds nothing, and a
list in its filter. -/
theorem Draft.placeholders_bind_update :
    let d : Draft := .update "t" [.columnType "a" "jsonb", .set "a" (.int 7),
      .setExpression "b" "now()", .filter (.isIn "c" [.int 1, .int 2])]
    ∃ b r, d.build = .ok b ∧ b.render = .ok r ∧ r.values = [.int 7, .int 1, .int 2] ∧
      (Sql.marks r.text).map (·.digits) = [['1'], ['2'], ['3']] ∧
      List.Forall₂ (b.Binds d.typeOf r.text) (b.operands.zipIdx 1) (Sql.marks r.text) := by
  intro d
  have hexpression : ∀ sql ∈ d.expressions, '$' ∉ sql.toList := by decide
  obtain ⟨b, hbuild⟩ : ∃ b, d.build = .ok b := ⟨_, rfl⟩
  obtain ⟨r, hrender⟩ : ∃ r, b.render = .ok r := by cases hbuild; exact ⟨_, rfl⟩
  obtain ⟨hdigits, hvalues, hbinds⟩ := placeholders_bind_operands hexpression hbuild hrender
  have hthree : r.values = [.int 7, .int 1, .int 2] := by rw [hvalues]; cases hbuild; rfl
  refine ⟨b, r, hbuild, hrender, hthree, ?_, hbinds⟩
  rw [hdigits, hthree]
  decide

end Store

end Rowgate
