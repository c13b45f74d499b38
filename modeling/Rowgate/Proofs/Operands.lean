import Rowgate.Proofs.Checked
import Rowgate.Proofs.Layout
/-
Operands: the values that filters bind.

The operands of a filter are read off the filter alone, from left to right, each with the column it
is compared with. `Filter.checkAll_operands` says that the slots in the layout of the checked
filters are these operands, one for one: the same column, the same value, and the cast that is
registered for the column.
-/
set_option autoImplicit false

namespace Rowgate.Sql

/-- A value that a statement binds, with the column that it is for. -/
structure Operand where
  column : String
  value : Json
deriving DecidableEq

/-- The values that an answer to a question needs. -/
def Question.values : Question → List Json
  | .nullity _ => []
  | .compare _ value => [value]
  | .membership _ value values => value :: values
  | .constant _ => []

mutual

/-- The values that a filter binds, from left to right, each with the column it is compared with. -/
def Filter.operands : Filter → List Operand
  | .condition c => c.question.values.map (⟨c.field, ·⟩)
  | .group _ filters => operandsOf filters

/-- The values that a list of filters binds. -/
def Filter.operandsOf : List Filter → List Operand
  | [] => []
  | f :: rest => operands f ++ operandsOf rest

end

/-- A slot is for the operand's column, holds its value and is cast to the type registered for the
column. -/
structure Operand.Fits (types : Keyed String) (o : Operand) (bound : Identifier × Slot) :
    Prop where
  column : bound.1.name = o.column
  value : bound.2.value = o.value
  cast : bound.2.cast.map (·.name) = Keyed.get? o.column types

/-- Operands that all slots fit have the values of the slots. -/
theorem Operand.values_of_fits {types : Keyed String} {os : List Operand}
    {bound : List (Identifier × Slot)} (h : List.Forall₂ (Operand.Fits types) os bound) :
    bound.map (·.2.value) = os.map (·.value) := by
  induction h with
  | nil => rfl
  | cons hfits _ ih => rw [List.map_cons, List.map_cons, hfits.value, ih]

theorem Question.check_operands {types : Keyed String} {column : Identifier} {q : Question}
    {p : Predicate} (h : q.check types column = .ok p) :
    List.Forall₂ (Operand.Fits types) (q.values.map (⟨column.name, ·⟩)) (Piece.bound p.pieces) := by
  obtain ⟨isNull, rfl, rfl⟩ | ⟨holds, rfl, rfl⟩ | ⟨comparison, value, cast, rfl, hcast, rfl⟩ |
    ⟨isIn, value, values, cast, rfl, hcast, rfl⟩ := Question.check_cases h
  · cases isNull <;> exact .nil
  · cases holds <;> exact .nil
  · exact .cons ⟨rfl, rfl, castOf_eq_ok.mp hcast⟩ .nil
  · simp only [Predicate.pieces, Piece.bound, Piece.bound_append, Piece.bound_placeholders,
      List.append_nil]
    rw [Question.values, List.forall₂_map_left_iff, List.map_map, List.forall₂_map_right_iff,
      List.forall₂_same]
    exact fun v _ => ⟨rfl, rfl, castOf_eq_ok.mp hcast⟩

/-- **The slots of checked filters are their operands**, one for one. -/
theorem Filter.checkAll_operands {types : Keyed String} {fs : List Filter} {ps : List Predicate}
    (h : Filter.checkAll types fs = .ok ps) :
    List.Forall₂ (Operand.Fits types) (Filter.operandsOf fs)
      (Piece.bound (Predicate.wherePieces ps)) := by
  have hmembers : ∀ (first last joiner : String) (ps : List Predicate),
      Piece.bound (.fixed first :: (Piece.joined joiner (Predicate.piecesOf ps) ++ [.fixed last])) =
        (Predicate.piecesOf ps).flatMap Piece.bound := by
    intro first last joiner ps
    simp only [Piece.bound, Piece.bound_append, Piece.bound_joined, List.append_nil]
  have inv : CheckInvariant types
      (fun f p => List.Forall₂ (Operand.Fits types) f.operands (Piece.bound p.pieces))
      (fun fs ps => List.Forall₂ (Operand.Fits types) (operandsOf fs)
        ((Predicate.piecesOf ps).flatMap Piece.bound)) :=
    { condition := by
        intro c column p hcolumn hp
        rw [Filter.operands, ← hcolumn]
        exact Question.check_operands hp
      all := .nil
      any := .nil
      group := by
        intro j f fs p ps hgroup
        rw [Filter.operands, Predicate.pieces, hmembers]
        exact hgroup
      nil := .nil
      cons := fun _ _ _ _ hf hfs => List.rel_append hf hfs }
  rw [Predicate.bound_wherePieces]
  exact inv.checkAll fs ps h

end Rowgate.Sql
