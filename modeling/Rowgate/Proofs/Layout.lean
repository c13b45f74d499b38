import Mathlib.Data.List.Basic
import Rowgate.Sql.Statement
/-
The layout of a statement: its text as one flat list of pieces.

`Statement.text` numbers placeholders in three ways. An insertion counts the columns, an update goes
on behind the slots of its assignments, and a predicate goes on behind the slots of the parts before
it. Laid out flat, the text has one numbering: the pieces stand one behind the other, and each slot
takes the next number. `Statement.charsOf_pieces` says that this is the same text, and
`Statement.slots_pieces` that the slots of the pieces are those of the statement, in order. What is
to be shown of every text can then be shown by one induction over pieces.
-/
set_option autoImplicit false

namespace Rowgate.Sql

/-- A piece of a statement's text. -/
inductive Piece where
  /-- a keyword, an operator, a number or a mark between other pieces -/
  | fixed (text : String)
  | name (identifier : Identifier)
  /-- a slot, with the column that its value is for -/
  | slot (column : Identifier) (slot : Slot)
  /-- an expression that is written as it is -/
  | expression (sql : String)

namespace Piece

/-- The slots among pieces, each with its column. -/
def bound : List Piece → List (Identifier × Slot)
  | [] => []
  | .slot column s :: rest => (column, s) :: bound rest
  | .fixed _ :: rest => bound rest
  | .name _ :: rest => bound rest
  | .expression _ :: rest => bound rest

/-- The slots among pieces. -/
def slots : List Piece → List Slot
  | [] => []
  | .slot _ s :: rest => s :: slots rest
  | .fixed _ :: rest => slots rest
  | .name _ :: rest => slots rest
  | .expression _ :: rest => slots rest

/-- The characters of pieces whose slots are numbered from `first`. -/
def charsOf (first : Nat) : List Piece → List Char
  | [] => []
  | .slot _ s :: rest => (s.text first).toList ++ charsOf (first + 1) rest
  | .fixed text :: rest => text.toList ++ charsOf first rest
  | .name identifier :: rest => identifier.quoted.toList ++ charsOf first rest
  | .expression sql :: rest => sql.toList ++ charsOf first rest

/-- Lists of pieces with a mark between each two. -/
def joined (separator : String) (parts : List (List Piece)) : List Piece :=
  [fixed separator].intercalate parts

/-- The characters of lists of pieces, each numbered on from the slots of those before it. -/
def charsEach (first : Nat) : List (List Piece) → List (List Char)
  | [] => []
  | part :: rest => charsOf first part :: charsEach (first + (slots part).length) rest

/-- A part of a statement that may be missing, behind a space. -/
def spaced : List Piece → List Piece
  | [] => []
  | part => .fixed " " :: part

/-! ## Pieces one behind the other -/

theorem map_bound (ps : List Piece) : (bound ps).map (·.2) = slots ps := by
  induction ps with
  | nil => rfl
  | cons p rest ih => cases p <;> simp only [bound, slots, List.map_cons, ih]

theorem bound_eq_nil {ps : List Piece} (h : slots ps = []) : bound ps = [] := by
  rw [← map_bound] at h
  exact List.map_eq_nil_iff.mp h

theorem bound_append (a b : List Piece) : bound (a ++ b) = bound a ++ bound b := by
  induction a with
  | nil => rfl
  | cons p rest ih => cases p <;> simp only [List.cons_append, bound, ih]

theorem slots_append (a b : List Piece) : slots (a ++ b) = slots a ++ slots b := by
  induction a with
  | nil => rfl
  | cons p rest ih => cases p <;> simp only [List.cons_append, slots, ih]

theorem charsOf_append (first : Nat) (a b : List Piece) :
    charsOf first (a ++ b) = charsOf first a ++ charsOf (first + (slots a).length) b := by
  induction a generalizing first with
  | nil => rfl
  | cons p rest ih =>
    cases p with
    | slot column s =>
      have hnext : first + 1 + (slots rest).length = first + ((slots rest).length + 1) := by omega
      simp only [List.cons_append, charsOf, slots, ih, List.append_assoc, List.length_cons, hnext]
    | fixed text => simp only [List.cons_append, charsOf, slots, ih, List.append_assoc]
    | name identifier => simp only [List.cons_append, charsOf, slots, ih, List.append_assoc]
    | expression sql => simp only [List.cons_append, charsOf, slots, ih, List.append_assoc]

theorem joined_cons_cons (separator : String) (p q : List Piece) (rest : List (List Piece)) :
    joined separator (p :: q :: rest) = p ++ .fixed separator :: joined separator (q :: rest) := by
  rw [joined, List.intercalate_cons_cons, List.append_assoc]
  rfl

/-- What is gathered from pieces, and not from the separator, is gathered part by part. -/
theorem gather_joined {β : Type} {gather : List Piece → List β} {separator : String}
    (hnil : gather [] = []) (hfixed : ∀ rest, gather (.fixed separator :: rest) = gather rest)
    (happend : ∀ a b, gather (a ++ b) = gather a ++ gather b) (parts : List (List Piece)) :
    gather (joined separator parts) = parts.flatMap gather := by
  induction parts with
  | nil => exact hnil
  | cons p rest ih =>
    cases rest with
    | nil => simp only [joined, List.intercalate_singleton, List.flatMap_cons, List.flatMap_nil,
        List.append_nil]
    | cons q rest =>
      rw [joined_cons_cons, happend, hfixed, ih, ← List.flatMap_cons]

theorem slots_joined (separator : String) (parts : List (List Piece)) :
    slots (joined separator parts) = parts.flatMap slots :=
  gather_joined rfl (fun _ => rfl) slots_append parts

theorem bound_joined (separator : String) (parts : List (List Piece)) :
    bound (joined separator parts) = parts.flatMap bound :=
  gather_joined rfl (fun _ => rfl) bound_append parts

theorem charsOf_joined (first : Nat) (separator : String) (parts : List (List Piece)) :
    charsOf first (joined separator parts) =
      separator.toList.intercalate (charsEach first parts) := by
  induction parts generalizing first with
  | nil => rfl
  | cons p rest ih =>
    cases rest with
    | nil => simp only [joined, List.intercalate_singleton, charsEach]
    | cons q rest =>
      rw [joined_cons_cons, charsOf_append, charsOf, ih]
      simp only [charsEach, List.intercalate_cons_cons, List.append_assoc]

/-- A part that is missing has no text, and one that is there is set off by a space. -/
theorem charsOf_spaced {first : Nat} {part : List Piece} {text : String}
    (hchars : charsOf first part = text.toList) (hempty : text = "" → part = []) :
    charsOf first (spaced part) = if text.isEmpty then [] else ' ' :: text.toList := by
  by_cases htext : text = ""
  · rw [hempty htext, htext]
    rfl
  -- a part with a text has pieces, so the space in front of it is written
  · have hpart : part ≠ [] := by
      rintro rfl
      exact htext (String.toList_eq_nil_iff.mp hchars.symm)
    have hspaced : spaced part = .fixed " " :: part := by
      cases part with
      | nil => exact absurd rfl hpart
      | cons p rest => rfl
    have hisEmpty : text.isEmpty = false := by simpa using htext
    rw [hspaced, charsOf, hchars, hisEmpty]
    rfl

theorem slots_spaced (part : List Piece) : slots (spaced part) = slots part := by
  cases part <;> rfl

theorem bound_spaced (part : List Piece) : bound (spaced part) = bound part := by
  cases part <;> rfl

/-! ## Placeholders in a list -/

/-- The placeholders of slots, with a comma between each two. -/
def placeholders (operands : List (Identifier × Slot)) : List Piece :=
  joined ", " (operands.map fun (column, s) => [.slot column s])

theorem bound_placeholders (operands : List (Identifier × Slot)) :
    bound (placeholders operands) = operands := by
  rw [placeholders, bound_joined, List.flatMap_map]
  exact List.flatMap_singleton' operands

theorem slots_placeholders (operands : List (Identifier × Slot)) :
    slots (placeholders operands) = operands.map (·.2) := by
  rw [← map_bound, bound_placeholders]

theorem charsOf_placeholders (first : Nat) (operands : List (Identifier × Slot)) :
    charsOf first (placeholders operands) = (String.intercalate ", "
      (Predicate.placeholders first (operands.map (·.2)))).toList := by
  -- each placeholder takes the next number
  have heach : ∀ n, charsEach n (operands.map fun (column, s) => [.slot column s]) =
      (Predicate.placeholders n (operands.map (·.2))).map String.toList := by
    induction operands with
    | nil => intro n; rfl
    | cons o rest ih =>
      intro n
      simp only [List.map_cons, charsEach, charsOf, slots, Predicate.placeholders, ih,
        List.append_nil, List.length_cons, List.length_nil]
  rw [placeholders, charsOf_joined, heach, String.toList_intercalate]

end Piece

/-! ## Predicates -/

namespace Predicate

mutual

/-- The pieces of a predicate. -/
def pieces : Predicate → List Piece
  | .constant true => [.fixed "1=1"]
  | .constant false => [.fixed "1=0"]
  | .nullity column true => [.name column, .fixed " IS NULL"]
  | .nullity column false => [.name column, .fixed " IS NOT NULL"]
  | .compare column comparison operand =>
    [.name column, .fixed (" " ++ comparison.token ++ " "), .slot column operand]
  | .membership column isIn operands =>
    .name column :: .fixed (if isIn then " IN (" else " NOT IN (") ::
      (Piece.placeholders (operands.map (column, ·)) ++ [.fixed ")"])
  | .group junction parts =>
    .fixed "(" :: (Piece.joined junction.joiner (piecesOf parts) ++ [.fixed ")"])

/-- The pieces of each of a list of predicates. -/
def piecesOf : List Predicate → List (List Piece)
  | [] => []
  | p :: rest => pieces p :: piecesOf rest

end

mutual

theorem slots_pieces : ∀ p : Predicate, Piece.slots p.pieces = p.slots
  | .constant true => rfl
  | .constant false => rfl
  | .nullity _ true => rfl
  | .nullity _ false => rfl
  | .compare _ _ _ => rfl
  | .membership column isIn operands => by
    simp only [pieces, Piece.slots, Piece.slots_append, Piece.slots_placeholders, List.map_map,
      Function.comp_def, List.map_id', List.append_nil, slots]
  | .group junction parts => by
    simp only [pieces, Piece.slots, Piece.slots_append, Piece.slots_joined, slots_piecesOf,
      List.append_nil, slots]

theorem slots_piecesOf : ∀ ps : List Predicate, (piecesOf ps).flatMap Piece.slots = slotsOf ps
  | [] => rfl
  | p :: rest => by rw [piecesOf, List.flatMap_cons, slots_pieces p, slots_piecesOf rest, slotsOf]

end

mutual

/-- **A predicate's text is that of its pieces.** -/
theorem charsOf_pieces : ∀ (first : Nat) (p : Predicate),
    Piece.charsOf first p.pieces = (p.text first).toList
  | first, .constant true => by simp only [pieces, Piece.charsOf, text, List.append_nil]
  | first, .constant false => by simp only [pieces, Piece.charsOf, text, List.append_nil]
  | first, .nullity column true => by
    simp only [pieces, Piece.charsOf, text, String.toList_append, List.append_nil]
  | first, .nullity column false => by
    simp only [pieces, Piece.charsOf, text, String.toList_append, List.append_nil]
  | first, .compare column comparison operand => by
    simp only [pieces, Piece.charsOf, text, String.toList_append, List.append_nil,
      List.append_assoc]
  | first, .membership column isIn operands => by
    simp only [pieces, Piece.charsOf, Piece.charsOf_append, Piece.charsOf_placeholders,
      List.map_map, Function.comp_def, List.map_id', text, String.toList_append, List.append_nil,
      List.append_assoc]
  | first, .group junction parts => by
    simp only [pieces, Piece.charsOf, Piece.charsOf_append, Piece.charsOf_joined,
      charsEach_piecesOf, text, String.toList_append, String.toList_intercalate,
      List.append_nil, List.append_assoc]

theorem charsEach_piecesOf : ∀ (first : Nat) (ps : List Predicate),
    Piece.charsEach first (piecesOf ps) = (texts first ps).map String.toList
  | _, [] => rfl
  | first, p :: rest => by
    rw [piecesOf, Piece.charsEach, charsOf_pieces first p, slots_pieces p,
      charsEach_piecesOf _ rest, texts, List.map_cons]

end

/-- The pieces of a `WHERE` clause. -/
def wherePieces (parts : List Predicate) : List Piece :=
  if parts.isEmpty then [] else .fixed "WHERE " :: Piece.joined " AND " (piecesOf parts)

theorem slots_wherePieces (parts : List Predicate) :
    Piece.slots (wherePieces parts) = slotsOf parts := by
  cases parts with
  | nil => rfl
  | cons p rest =>
    rw [wherePieces, if_neg (by simp), Piece.slots, Piece.slots_joined, slots_piecesOf]

theorem bound_wherePieces (parts : List Predicate) :
    Piece.bound (wherePieces parts) = (piecesOf parts).flatMap Piece.bound := by
  cases parts with
  | nil => rfl
  | cons p rest => rw [wherePieces, if_neg (by simp), Piece.bound, Piece.bound_joined]

theorem charsOf_wherePieces (first : Nat) (parts : List Predicate) :
    Piece.charsOf first (wherePieces parts) = (whereClause first parts).toList := by
  cases parts with
  | nil => rfl
  | cons p rest =>
    rw [wherePieces, if_neg (by simp), whereClause, if_neg (by simp), Piece.charsOf,
      Piece.charsOf_joined, charsEach_piecesOf, String.toList_append, String.toList_intercalate]

theorem wherePieces_eq_nil {first : Nat} {parts : List Predicate}
    (h : whereClause first parts = "") : wherePieces parts = [] := by
  cases parts with
  | nil => rfl
  | cons p rest =>
    rw [whereClause, if_neg (by simp)] at h
    simp at h

end Predicate

/-! ## The other clauses -/

/-- The pieces of names with a comma between each two. -/
def Identifier.listPieces (names : List Identifier) : List Piece :=
  Piece.joined ", " (names.map fun i => [.name i])

theorem Identifier.slots_listPieces (names : List Identifier) :
    Piece.slots (listPieces names) = [] := by
  rw [listPieces, Piece.slots_joined, List.flatMap_map]
  exact List.flatMap_eq_nil_iff.mpr fun _ _ => rfl

theorem Identifier.charsOf_listPieces (first : Nat) (names : List Identifier) :
    Piece.charsOf first (listPieces names) =
      (String.intercalate ", " (names.map Identifier.quoted)).toList := by
  have heach : Piece.charsEach first (names.map fun i => [.name i]) =
      (names.map Identifier.quoted).map String.toList := by
    induction names with
    | nil => rfl
    | cons i rest ih =>
      simp only [List.map_cons, Piece.charsEach, Piece.charsOf, Piece.slots, List.append_nil,
        List.length_nil, Nat.add_zero, ih]
  rw [listPieces, Piece.charsOf_joined, heach, String.toList_intercalate]

/-- The pieces of a list of columns. -/
def Columns.pieces : Columns → List Piece
  | .all => [.fixed "*"]
  | .named columns => Identifier.listPieces columns

theorem Columns.slots_pieces (c : Columns) : Piece.slots c.pieces = [] := by
  cases c with
  | all => rfl
  | named columns => exact Identifier.slots_listPieces columns

theorem Columns.charsOf_pieces (first : Nat) (c : Columns) :
    Piece.charsOf first c.pieces = c.text.toList := by
  cases c with
  | all => simp only [pieces, Piece.charsOf, text, List.append_nil]
  | named columns => exact Identifier.charsOf_listPieces first columns

/-- The pieces of an `ORDER BY` clause. -/
def SortTerm.clausePieces (terms : List SortTerm) : List Piece :=
  if terms.isEmpty then [] else .fixed "ORDER BY " :: Piece.joined ", "
    (terms.map fun t => [.name t.column, .fixed (" " ++ t.direction.keyword)])

theorem SortTerm.slots_clausePieces (terms : List SortTerm) :
    Piece.slots (clausePieces terms) = [] := by
  cases terms with
  | nil => rfl
  | cons t rest =>
    rw [clausePieces, if_neg (by simp), Piece.slots, Piece.slots_joined, List.flatMap_map]
    exact List.flatMap_eq_nil_iff.mpr fun _ _ => rfl

theorem SortTerm.charsOf_clausePieces (first : Nat) (terms : List SortTerm) :
    Piece.charsOf first (clausePieces terms) = (clause terms).toList := by
  have heach : ∀ ts : List SortTerm,
      Piece.charsEach first (ts.map fun t => [.name t.column, .fixed (" " ++ t.direction.keyword)])
        = (ts.map text).map String.toList := by
    intro ts
    induction ts with
    | nil => rfl
    | cons t ts ih =>
      simp only [List.map_cons, Piece.charsEach, Piece.charsOf, Piece.slots, List.append_nil,
        List.length_nil, Nat.add_zero, ih, text, String.toList_append, List.append_assoc]
  cases terms with
  | nil => rfl
  | cons t rest =>
    rw [clausePieces, if_neg (by simp), clause, if_neg (by simp), Piece.charsOf,
      Piece.charsOf_joined, heach, String.toList_append, String.toList_intercalate]

theorem SortTerm.clausePieces_eq_nil {terms : List SortTerm} (h : clause terms = "") :
    clausePieces terms = [] := by
  cases terms with
  | nil => rfl
  | cons t rest =>
    rw [clause, if_neg (by simp)] at h
    simp at h

/-- The pieces of the `LIMIT` and `OFFSET` clauses: names and slots play no part in them. -/
def Page.pieces (page : Page) : List Piece :=
  if page.text.isEmpty then [] else [.fixed page.text]

theorem Page.slots_pieces (page : Page) : Piece.slots page.pieces = [] := by
  rw [pieces]
  split <;> rfl

theorem Page.charsOf_pieces (first : Nat) (page : Page) :
    Piece.charsOf first page.pieces = page.text.toList := by
  rw [pieces]
  split
  · rename_i h
    rw [String.isEmpty_iff.mp h]
    rfl
  · simp only [Piece.charsOf, List.append_nil]

theorem Page.pieces_eq_nil {page : Page} (h : page.text = "") : page.pieces = [] := by
  rw [pieces, h]
  rfl

/-- The pieces of a `RETURNING` clause. -/
def returningPieces : Option Columns → List Piece
  | none => []
  | some columns => .fixed "RETURNING " :: columns.pieces

theorem slots_returningPieces (columns : Option Columns) :
    Piece.slots (returningPieces columns) = [] := by
  cases columns with
  | none => rfl
  | some c => exact c.slots_pieces

theorem charsOf_returningPieces (first : Nat) (columns : Option Columns) :
    Piece.charsOf first (returningPieces columns) = (returningClause columns).toList := by
  cases columns with
  | none => rfl
  | some c =>
    rw [returningPieces, returningClause, Piece.charsOf, c.charsOf_pieces, String.toList_append]

theorem returningPieces_eq_nil {columns : Option Columns} (h : returningClause columns = "") :
    returningPieces columns = [] := by
  cases columns with
  | none => rfl
  | some c => simp [returningClause] at h

/-! ## Assignments -/

namespace Assigned

/-- The pieces of one assignment. -/
def pieces (column : Identifier) : Assigned → List Piece
  | .slot s => [.name column, .fixed " = ", .slot column s]
  | .expression sql => [.name column, .fixed " = ", .expression sql]

/-- The pieces of each of a list of assignments. -/
def piecesOf : List (Identifier × Assigned) → List (List Piece)
  | [] => []
  | (column, value) :: rest => value.pieces column :: piecesOf rest

theorem slots_piecesOf (assignments : List (Identifier × Assigned)) :
    (piecesOf assignments).flatMap Piece.slots = slotsOf assignments := by
  induction assignments with
  | nil => rfl
  | cons a rest ih =>
    obtain ⟨column, value⟩ := a
    cases value <;> simp only [piecesOf, pieces, List.flatMap_cons, Piece.slots, slotsOf, slots, ih]

theorem bound_piecesOf (assignments : List (Identifier × Assigned)) :
    (piecesOf assignments).flatMap Piece.bound =
      assignments.flatMap fun a => Piece.bound (a.2.pieces a.1) := by
  induction assignments with
  | nil => rfl
  | cons a rest ih => rw [piecesOf, List.flatMap_cons, ih, List.flatMap_cons]

theorem charsEach_piecesOf (first : Nat) (assignments : List (Identifier × Assigned)) :
    Piece.charsEach first (piecesOf assignments) = (texts first assignments).map String.toList := by
  induction assignments generalizing first with
  | nil => rfl
  | cons a rest ih =>
    obtain ⟨column, value⟩ := a
    cases value <;> simp only [piecesOf, pieces, List.map_cons, Piece.charsEach, Piece.charsOf,
      Piece.slots, texts, slots, text, String.toList_append, List.append_nil, List.append_assoc, ih]

end Assigned

/-! ## Statements -/

/-- The parts of a statement that are there follow the first one, each behind a space. -/
theorem toList_joinParts {head : String} (hhead : head ≠ "") (parts : List String) :
    (joinParts (head :: parts)).toList =
      head.toList ++ parts.flatMap fun part => if part.isEmpty then [] else ' ' :: part.toList := by
  have hkeep : (!head.isEmpty) = true := by simpa using hhead
  -- behind what is there already, a part brings its own space or is left out
  have hjoin : ∀ (x : List Char) (rest : List String),
      [' '].intercalate (x :: (rest.filter fun part => !part.isEmpty).map String.toList) =
        x ++ rest.flatMap fun part => if part.isEmpty then [] else ' ' :: part.toList := by
    intro x rest
    induction rest generalizing x with
    | nil => simp
    | cons part rest ih =>
      by_cases hpart : part.isEmpty = true
      · simp only [List.filter_cons, hpart, Bool.not_true, Bool.false_eq_true, if_false,
          List.flatMap_cons, if_true, List.nil_append, ih]
      · simp only [List.filter_cons, hpart, Bool.not_false, if_true, List.map_cons,
          List.intercalate_cons_cons, ih, List.flatMap_cons, Bool.false_eq_true, if_false,
          List.append_assoc, List.cons_append, List.nil_append]
  rw [joinParts, String.toList_intercalate, List.filter_cons, if_pos hkeep, List.map_cons]
  exact hjoin head.toList parts

namespace Statement

/-- The pieces of a statement. -/
def pieces : Statement → List Piece
  | .select table columns conditions order page =>
    .fixed "SELECT " :: (columns.pieces ++ .fixed " FROM " :: .name table ::
      (Piece.spaced (Predicate.wherePieces conditions) ++
        (Piece.spaced (SortTerm.clausePieces order) ++ Piece.spaced page.pieces)))
  | .count table conditions =>
    .fixed "SELECT COUNT(*) FROM " :: .name table ::
      Piece.spaced (Predicate.wherePieces conditions)
  | .insert table [] returning =>
    .fixed "INSERT INTO " :: .name table :: .fixed " DEFAULT VALUES" ::
      Piece.spaced (returningPieces returning)
  | .insert table (value :: rest) returning =>
    .fixed "INSERT INTO " :: .name table :: .fixed " (" ::
      (Identifier.listPieces ((value :: rest).map (·.1)) ++ .fixed ") VALUES (" ::
        (Piece.placeholders (value :: rest) ++
          .fixed ")" :: Piece.spaced (returningPieces returning)))
  | .update table assignments conditions returning =>
    .fixed "UPDATE " :: .name table :: .fixed " SET " ::
      (Piece.joined ", " (Assigned.piecesOf assignments) ++
        (Piece.spaced (Predicate.wherePieces conditions) ++
          Piece.spaced (returningPieces returning)))
  | .delete table conditions returning =>
    .fixed "DELETE FROM " :: .name table ::
      (Piece.spaced (Predicate.wherePieces conditions) ++
        Piece.spaced (returningPieces returning))

/-- **The slots of the pieces are those of the statement.** -/
theorem slots_pieces (s : Statement) : Piece.slots s.pieces = s.slots := by
  cases s with
  | select table columns conditions order page =>
    simp only [pieces, Piece.slots, Piece.slots_append, Piece.slots_spaced, columns.slots_pieces,
      Predicate.slots_wherePieces, SortTerm.slots_clausePieces, page.slots_pieces,
      List.nil_append, List.append_nil, slots]
  | count table conditions =>
    simp only [pieces, Piece.slots, Piece.slots_spaced, Predicate.slots_wherePieces, slots]
  | insert table values returning =>
    cases values with
    | nil =>
      simp only [pieces, Piece.slots, Piece.slots_spaced, slots_returningPieces, slots,
        List.map_nil]
    | cons value rest =>
      simp only [pieces, Piece.slots, Piece.slots_append, Piece.slots_spaced,
        Identifier.slots_listPieces, Piece.slots_placeholders, slots_returningPieces, slots,
        List.nil_append, List.append_nil]
  | update table assignments conditions returning =>
    simp only [pieces, Piece.slots, Piece.slots_append, Piece.slots_spaced, Piece.slots_joined,
      Assigned.slots_piecesOf, Predicate.slots_wherePieces, slots_returningPieces, slots,
      List.append_nil]
  | delete table conditions returning =>
    simp only [pieces, Piece.slots, Piece.slots_append, Piece.slots_spaced,
      Predicate.slots_wherePieces, slots_returningPieces, slots, List.append_nil]

private theorem charsOf_spacedWhere (first : Nat) (conditions : List Predicate) :
    Piece.charsOf first (Piece.spaced (Predicate.wherePieces conditions)) =
      if (Predicate.whereClause first conditions).isEmpty then []
      else ' ' :: (Predicate.whereClause first conditions).toList :=
  Piece.charsOf_spaced (Predicate.charsOf_wherePieces first conditions)
    Predicate.wherePieces_eq_nil

private theorem charsOf_spacedReturning (first : Nat) (columns : Option Columns) :
    Piece.charsOf first (Piece.spaced (returningPieces columns)) =
      if (returningClause columns).isEmpty then [] else ' ' :: (returningClause columns).toList :=
  Piece.charsOf_spaced (charsOf_returningPieces first columns) returningPieces_eq_nil

private theorem charsOf_spacedOrder (first : Nat) (terms : List SortTerm) :
    Piece.charsOf first (Piece.spaced (SortTerm.clausePieces terms)) =
      if (SortTerm.clause terms).isEmpty then [] else ' ' :: (SortTerm.clause terms).toList :=
  Piece.charsOf_spaced (SortTerm.charsOf_clausePieces first terms) SortTerm.clausePieces_eq_nil

private theorem charsOf_spacedPage (first : Nat) (page : Page) :
    Piece.charsOf first (Piece.spaced page.pieces) =
      if page.text.isEmpty then [] else ' ' :: page.text.toList :=
  Piece.charsOf_spaced (Page.charsOf_pieces first page) Page.pieces_eq_nil

/-- **One numbering.** The text of a statement is that of its pieces, their slots numbered from one
in the order in which they stand. -/
theorem charsOf_pieces (s : Statement) : Piece.charsOf 1 s.pieces = s.text.toList := by
  cases s with
  | select table columns conditions order page =>
    rw [text, toList_joinParts (by simp)]
    simp only [pieces, Piece.charsOf, Piece.charsOf_append, Columns.charsOf_pieces,
      columns.slots_pieces, charsOf_spacedWhere, charsOf_spacedOrder, charsOf_spacedPage,
      List.length_nil, Nat.add_zero, List.flatMap_cons, List.flatMap_nil, String.toList_append,
      List.append_nil, List.append_assoc]
  | count table conditions =>
    rw [text, toList_joinParts (by simp)]
    simp only [pieces, Piece.charsOf, charsOf_spacedWhere, List.flatMap_cons, List.flatMap_nil,
      String.toList_append, List.append_nil, List.append_assoc]
  | insert table values returning =>
    cases values with
    | nil =>
      rw [text, toList_joinParts (by simp)]
      simp only [pieces, Piece.charsOf, charsOf_spacedReturning, List.flatMap_cons,
        List.flatMap_nil, String.toList_append, List.append_nil, List.append_assoc]
    | cons value rest =>
      -- names and slots of an insertion stand in lists of their own
      have hnames : (value :: rest).map (fun v => v.1.quoted) =
          ((value :: rest).map (·.1)).map Identifier.quoted := by rw [List.map_map]; rfl
      rw [text, toList_joinParts (by simp), hnames]
      simp only [pieces, Piece.charsOf, Piece.charsOf_append, Identifier.charsOf_listPieces,
        Identifier.slots_listPieces, Piece.charsOf_placeholders, charsOf_spacedReturning,
        List.length_nil, Nat.add_zero, List.flatMap_cons, List.flatMap_nil, String.toList_append,
        List.append_nil, List.append_assoc]
  | update table assignments conditions returning =>
    rw [text, toList_joinParts (by simp)]
    simp only [pieces, Piece.charsOf, Piece.charsOf_append, Piece.charsOf_joined,
      Piece.slots_joined, Assigned.charsEach_piecesOf, Assigned.slots_piecesOf,
      charsOf_spacedWhere, charsOf_spacedReturning, List.flatMap_cons, List.flatMap_nil,
      String.toList_append, String.toList_intercalate, List.append_nil, List.append_assoc]
  | delete table conditions returning =>
    rw [text, toList_joinParts (by simp)]
    simp only [pieces, Piece.charsOf, Piece.charsOf_append, charsOf_spacedWhere,
      charsOf_spacedReturning, List.flatMap_cons, List.flatMap_nil, String.toList_append,
      List.append_nil, List.append_assoc]

end Statement

end Rowgate.Sql
