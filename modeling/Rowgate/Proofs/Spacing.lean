import Rowgate.Proofs.Layout
import Rowgate.Proofs.Letters
/-
What stands next to what in a statement.

A scanner that looks for placeholders or for names in the text of a statement relies on three things
of its layout. The fixed text between the other pieces holds neither of the marks `$` and `"`. What
follows a placeholder ends it: nothing, a space, a comma or a closing parenthesis. And, but for an
insertion, a placeholder stands behind the name of the column that its value is for, with nothing
quoted in between. `Piece.Orderly` says this of a list of pieces, and `Statement.orderly_pieces` of
every statement whose expressions are free of `$`.

Pieces are put together from parts, so what is shown of a part is `Piece.Closed`: the part keeps
order before whatever may follow a placeholder.
-/
set_option autoImplicit false

namespace Rowgate.Sql

namespace Piece

/-- Pieces that may follow a placeholder. -/
def Stop : List Piece → Prop
  | [] => True
  | .fixed text :: _ => text ≠ "" ∧ Stops text.toList
  | _ :: _ => False

/-- Pieces in order, behind the name `current` if nothing was quoted since. Whether placeholders have
to stand behind the name of their column is `led`. -/
def Orderly (led : Prop) (current : Option Identifier) : List Piece → Prop
  | [] => True
  | .fixed text :: rest => '$' ∉ text.toList ∧ '"' ∉ text.toList ∧ Orderly led current rest
  | .name identifier :: rest => Orderly led (some identifier) rest
  | .slot column _ :: rest => (led → current = some column) ∧ Stop rest ∧ Orderly led current rest
  | .expression sql :: rest => '$' ∉ sql.toList ∧ Orderly led none rest

/-- Pieces in order that may follow a placeholder, whatever was quoted last. -/
structure Follows (led : Prop) (rest : List Piece) : Prop where
  stop : Stop rest
  orderly : ∀ current, Orderly led current rest

/-- Pieces that keep order before whatever may follow a placeholder. -/
def Closed (led : Prop) (part : List Piece) : Prop :=
  ∀ rest, Follows led rest → ∀ current, Orderly led current (part ++ rest)

/-- A text that may stand between parts: it ends a placeholder and holds no mark. -/
structure Separates (text : String) : Prop where
  nonempty : text ≠ ""
  stops : Stops text.toList
  noDollar : '$' ∉ text.toList
  noQuote : '"' ∉ text.toList

section Closed

variable {led : Prop}

theorem follows_nil : Follows led [] := ⟨trivial, fun _ => trivial⟩

theorem Separates.follows {text : String} (h : Separates text) {rest : List Piece}
    (hrest : ∀ current, Orderly led current rest) : Follows led (.fixed text :: rest) :=
  ⟨⟨h.nonempty, h.stops⟩, fun current => ⟨h.noDollar, h.noQuote, hrest current⟩⟩

theorem closed_nil : Closed led [] := fun _ hrest => hrest.orderly

theorem Closed.fixed_cons {text : String} {part : List Piece} (hdollar : '$' ∉ text.toList)
    (hquote : '"' ∉ text.toList) (h : Closed led part) : Closed led (.fixed text :: part) :=
  fun rest hrest current => ⟨hdollar, hquote, h rest hrest current⟩

theorem Closed.name_cons {identifier : Identifier} {part : List Piece} (h : Closed led part) :
    Closed led (.name identifier :: part) :=
  fun rest hrest _ => h rest hrest (some identifier)

/-- A part that keeps order is in order by itself. -/
theorem Closed.orderly {part : List Piece} (h : Closed led part) : Orderly led none part := by
  have hpart := h [] follows_nil none
  rwa [List.append_nil] at hpart

/-- A part, and behind it pieces that may follow a placeholder. -/
theorem Closed.append {a b : List Piece} (ha : Closed led a)
    (hb : ∀ rest, Follows led rest → Follows led (b ++ rest)) : Closed led (a ++ b) := by
  intro rest hrest current
  rw [List.append_assoc]
  exact ha _ (hb rest hrest) current

theorem Closed.joined {separator : String} (hseparator : Separates separator)
    {parts : List (List Piece)} (h : ∀ part ∈ parts, Closed led part) :
    Closed led (joined separator parts) := by
  induction parts with
  | nil => exact closed_nil
  | cons p rest ih =>
    have hp := h p List.mem_cons_self
    have hrest := ih fun part hmem => h part (List.mem_cons_of_mem _ hmem)
    cases rest with
    | nil =>
      rw [Piece.joined, List.intercalate_singleton]
      exact hp
    | cons q rest =>
      rw [joined_cons_cons]
      refine hp.append fun tail htail => ?_
      exact hseparator.follows fun current => hrest tail htail current

/-- A part that may be missing follows whatever stands before it. -/
theorem Closed.spaced {part : List Piece} (h : Closed led part) {rest : List Piece}
    (hrest : Follows led rest) : Follows led (spaced part ++ rest) := by
  cases part with
  | nil => exact hrest
  | cons p tail =>
    have hspace : Separates " " := ⟨by decide, by decide, by decide, by decide⟩
    exact hspace.follows fun current => h rest hrest current

end Closed

end Piece

/-! ## Predicates -/

section Predicate

open Piece

theorem separates_comma : Separates ", " := ⟨by decide, by decide, by decide, by decide⟩

theorem separates_close : Separates ")" := ⟨by decide, by decide, by decide, by decide⟩

theorem Junction.separates (j : Junction) : Separates j.joiner := by
  cases j <;> exact ⟨by decide, by decide, by decide, by decide⟩

/-- A closing parenthesis may follow a placeholder, before whatever else may. -/
theorem follows_close {led : Prop} {rest : List Piece} (hrest : Follows led rest) :
    Follows led ([.fixed ")"] ++ rest) :=
  separates_close.follows hrest.orderly

/-- Placeholders in a list stand behind the name of their column, as long as nothing else is quoted
between them. -/
theorem orderly_placeholders {led : Prop} {current : Option Identifier}
    {operands : List (Identifier × Slot)} (hled : led → ∀ o ∈ operands, current = some o.1)
    {rest : List Piece} (hrest : Follows led rest) :
    Orderly led current (placeholders operands ++ rest) := by
  induction operands with
  | nil => exact hrest.orderly current
  | cons o tail ih =>
    have ho : led → current = some o.1 := fun l => hled l o List.mem_cons_self
    have htail := ih fun l o' hmem => hled l o' (List.mem_cons_of_mem _ hmem)
    cases tail with
    | nil => exact ⟨ho, hrest.stop, hrest.orderly current⟩
    | cons o' tail =>
      rw [placeholders, List.map_cons, List.map_cons, joined_cons_cons]
      exact ⟨ho, ⟨by decide, by decide⟩, by decide, by decide, htail⟩

mutual

theorem Predicate.closed_pieces {led : Prop} : ∀ p : Predicate, Closed led p.pieces
  | .constant true => closed_nil.fixed_cons (by decide) (by decide)
  | .constant false => closed_nil.fixed_cons (by decide) (by decide)
  | .nullity column true => (closed_nil.fixed_cons (by decide) (by decide)).name_cons
  | .nullity column false => (closed_nil.fixed_cons (by decide) (by decide)).name_cons
  | .compare column comparison operand => by
    intro rest hrest current
    -- the operator is all that stands between the column and its placeholder
    refine ⟨?_, ?_, fun _ => rfl, hrest.stop, hrest.orderly _⟩ <;> cases comparison <;> decide
  | .membership column isIn operands => by
    intro rest hrest current
    -- the column is still the last name when the list is read
    have hlist : Orderly led (some column)
        (Piece.placeholders (operands.map (column, ·)) ++ ([.fixed ")"] ++ rest)) := by
      refine orderly_placeholders (fun _ o hmem => ?_) (follows_close hrest)
      obtain ⟨s, _, rfl⟩ := List.mem_map.mp hmem
      rfl
    rw [← List.append_assoc] at hlist
    refine ⟨?_, ?_, hlist⟩ <;> cases isIn <;> decide
  | .group junction parts =>
    ((Closed.joined junction.separates (closed_piecesOf parts)).append
      fun _ hrest => follows_close hrest).fixed_cons (by decide) (by decide)

theorem Predicate.closed_piecesOf {led : Prop} :
    ∀ ps : List Predicate, ∀ part ∈ piecesOf ps, Closed led part
  | [], part, h => by cases h
  | p :: rest, part, h => by
    rw [piecesOf] at h
    rcases List.mem_cons.mp h with rfl | h
    · exact closed_pieces p
    · exact closed_piecesOf rest part h

end

theorem Predicate.closed_wherePieces {led : Prop} (ps : List Predicate) :
    Closed led (wherePieces ps) := by
  rw [wherePieces]
  split
  · exact closed_nil
  · exact (Closed.joined (Junction.separates .and) (closed_piecesOf ps)).fixed_cons (by decide)
      (by decide)

end Predicate

/-! ## The other clauses -/

section Clause

open Piece

variable {led : Prop}

theorem Identifier.closed_listPieces (names : List Identifier) : Closed led (listPieces names) := by
  rw [listPieces]
  refine Closed.joined separates_comma fun part hmem => ?_
  obtain ⟨i, _, rfl⟩ := List.mem_map.mp hmem
  exact closed_nil.name_cons

theorem Columns.closed_pieces (c : Columns) : Closed led c.pieces := by
  cases c with
  | all => exact closed_nil.fixed_cons (by decide) (by decide)
  | named columns => exact Identifier.closed_listPieces columns

theorem SortTerm.closed_clausePieces (terms : List SortTerm) : Closed led (clausePieces terms) := by
  rw [clausePieces]
  split
  · exact closed_nil
  · refine (Closed.joined separates_comma fun part hmem => ?_).fixed_cons (by decide) (by decide)
    obtain ⟨t, _, rfl⟩ := List.mem_map.mp hmem
    have hdirection : '$' ∉ (" " ++ t.direction.keyword).toList ∧
        '"' ∉ (" " ++ t.direction.keyword).toList := by
      cases t.direction <;> decide
    exact (closed_nil.fixed_cons hdirection.1 hdirection.2).name_cons

/-- A page is written in letters that are no marks. -/
theorem Page.closed_pieces (page : Page) : Closed led page.pieces := by
  -- digits, signs and the letters of the two keywords are no marks
  have hmark : ∀ c : Char, c.isDigit = false → c ≠ '-' → c ∉ "LIMIT OFFSET".toList →
      c ∉ page.text.toList := by
    intro c hdigit hminus hletter hmem
    rcases Page.mem_text hmem with h | h | h
    · rw [hdigit] at h
      cases h
    · exact hminus h
    · exact hletter h
  rw [pieces]
  split
  · exact closed_nil
  · exact closed_nil.fixed_cons (hmark '$' (by decide) (by decide) (by decide))
      (hmark '"' (by decide) (by decide) (by decide))

theorem closed_returningPieces (columns : Option Columns) : Closed led (returningPieces columns) := by
  cases columns with
  | none => exact closed_nil
  | some c => exact c.closed_pieces.fixed_cons (by decide) (by decide)

end Clause

/-! ## Assignments -/

/-- The expressions among assignments. -/
def Assigned.expressions (assignments : List (Identifier × Assigned)) : List String :=
  assignments.filterMap fun
    | (_, .expression sql) => some sql
    | (_, .slot _) => none

/-- An assignment keeps order if its expression, should it be one, is free of `$`. -/
theorem Assigned.closed_piecesOf {led : Prop} {assignments : List (Identifier × Assigned)}
    (h : ∀ sql ∈ expressions assignments, '$' ∉ sql.toList) :
    ∀ part ∈ piecesOf assignments, Piece.Closed led part := by
  induction assignments with
  | nil =>
    intro part hmem
    cases hmem
  | cons a assignments ih =>
    obtain ⟨column, value⟩ := a
    intro part hmem
    rw [piecesOf] at hmem
    cases value with
    | slot s =>
      rcases List.mem_cons.mp hmem with rfl | hmem
      · intro rest hrest current
        exact ⟨by decide, by decide, fun _ => rfl, hrest.stop, hrest.orderly _⟩
      · exact ih h part hmem
    | expression sql =>
      rcases List.mem_cons.mp hmem with rfl | hmem
      · intro rest hrest current
        exact ⟨by decide, by decide, h sql List.mem_cons_self, hrest.orderly _⟩
      · exact ih (fun sql hsql => h sql (List.mem_cons_of_mem _ hsql)) part hmem

/-! ## Statements -/

namespace Statement

open Piece

/-- The expressions that stand in a statement as they are. -/
def expressions : Statement → List String
  | .update _ assignments _ _ => Assigned.expressions assignments
  | _ => []

/-- Whether the placeholders of a statement stand behind the names of their columns. Those of an
insertion stand in a list of their own. -/
def Led : Statement → Prop
  | .insert _ _ _ => False
  | _ => True

/-- **Every statement is in order**, as long as its expressions are free of `$`. -/
theorem orderly_pieces (s : Statement) (h : ∀ sql ∈ s.expressions, '$' ∉ sql.toList) :
    Orderly s.Led none s.pieces := by
  have hwhere : ∀ {led : Prop} (conditions : List Predicate) {rest : List Piece},
      Follows led rest → Follows led (spaced (Predicate.wherePieces conditions) ++ rest) :=
    fun conditions _ hrest => (Predicate.closed_wherePieces conditions).spaced hrest
  have hreturning : ∀ {led : Prop} (columns : Option Columns),
      Follows led (spaced (returningPieces columns)) := by
    intro led columns
    have hfollows := (closed_returningPieces columns).spaced (@follows_nil led)
    rwa [List.append_nil] at hfollows
  cases s with
  | select table columns conditions order page =>
    refine ⟨by decide, by decide, columns.closed_pieces _ ?_ _⟩
    have hfrom : Separates " FROM " := ⟨by decide, by decide, by decide, by decide⟩
    refine hfrom.follows fun _ => Follows.orderly (hwhere conditions ?_) _
    refine (SortTerm.closed_clausePieces order).spaced ?_
    have hpage := page.closed_pieces.spaced (@follows_nil True)
    rwa [List.append_nil] at hpage
  | count table conditions =>
    have hconditions := hwhere conditions (@follows_nil True)
    rw [List.append_nil] at hconditions
    exact ⟨by decide, by decide, hconditions.orderly _⟩
  | insert table values returning =>
    cases values with
    | nil => exact ⟨by decide, by decide, by decide, by decide, (hreturning returning).orderly _⟩
    | cons value rest =>
      refine ⟨by decide, by decide, by decide, by decide, Identifier.closed_listPieces _ _ ?_ _⟩
      -- the names of an insertion end before its placeholders begin
      have hvalues : Separates ") VALUES (" := ⟨by decide, by decide, by decide, by decide⟩
      refine hvalues.follows fun current => orderly_placeholders False.elim ?_
      exact separates_close.follows (hreturning returning).orderly
  | update table assignments conditions returning =>
    refine ⟨by decide, by decide, by decide, by decide, ?_⟩
    refine Closed.joined separates_comma (Assigned.closed_piecesOf h) _ ?_ _
    exact hwhere conditions (hreturning returning)
  | delete table conditions returning =>
    exact ⟨by decide, by decide, (hwhere conditions (hreturning returning)).orderly _⟩

end Statement

end Rowgate.Sql
