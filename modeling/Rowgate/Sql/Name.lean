import Rowgate.Json.Value
/-
Names that may stand in SQL text.

A table or column name reaches the text directly, so it is an `Identifier` first: a value of that
type carries the proof that its name was not rejected, and its written form is the name in double
quotes. A `ColumnType` is the name of a type that a placeholder is cast to. Four reasons can reject
an identifier, and the first that applies, in the order of `Identifier.rejection?`, is reported.
-/
set_option autoImplicit false

namespace Rowgate.Sql

/-- Why a name may not stand in SQL text. -/
inductive NameError where
  | empty
  | tooLong (name : String) (length : Nat)
  | badStart (name : String)
  | badCharacter (name : String)
  | badType (name : String)
deriving DecidableEq, Repr

/-- The most bytes a name may have. -/
def maxNameLength : Nat := 63

/-- The text of a rejection. -/
def NameError.message : NameError → String
  | .empty => "Name cannot be empty"
  | .tooLong name length =>
    "Name '" ++ name ++ "' is too long: " ++ toString length ++ " characters (max " ++
      toString maxNameLength ++ ")"
  | .badStart name => "Name '" ++ name ++ "' must start with a letter or underscore"
  | .badCharacter name =>
    "Invalid characters in name '" ++ name ++
      "': only alphanumeric characters and underscores are allowed"
  | .badType name => "'" ++ name ++ "' is not a usable column type"

/-! ## Identifiers -/

/-- An ASCII letter or an underscore. -/
def isNameStart (c : Char) : Bool := c.isAlpha || c == '_'

/-- An ASCII letter, an ASCII digit or an underscore. -/
def isNameChar (c : Char) : Bool := c.isAlphanum || c == '_'

/-- The first reason to reject a name: that it is empty, that it has too many bytes, its first
character, any of its characters. -/
def Identifier.rejection? (name : String) : Option NameError :=
  match name.toList with
  | [] => some .empty
  | c :: cs =>
    if maxNameLength < name.utf8ByteSize then some (.tooLong name name.utf8ByteSize)
    else if !isNameStart c then some (.badStart name)
    else if !(c :: cs).all isNameChar then some (.badCharacter name)
    else none

/-- A name that may stand in SQL text as a table or a column. -/
structure Identifier where
  name : String
  accepted : Identifier.rejection? name = none
deriving DecidableEq

namespace Identifier

/-- The identifier with the given name, or the reason to reject it. -/
def ofName (name : String) : Except NameError Identifier :=
  match h : rejection? name with
  | none => .ok ⟨name, h⟩
  | some e => .error e

/-- The written form: the name in double quotes, so that keywords can be names. -/
def quoted (i : Identifier) : String := "\"" ++ i.name ++ "\""

/-- Accepted names are those of letters, digits and underscores, at most as long as allowed, that
start with no digit. -/
theorem rejection?_eq_none_iff (name : String) :
    rejection? name = none ↔
      ∃ c cs, name.toList = c :: cs ∧ isNameStart c = true ∧ (c :: cs).all isNameChar = true ∧
        name.utf8ByteSize ≤ maxNameLength := by
  unfold rejection?
  split
  · rename_i h; simp [h]
  · rename_i c cs h
    rw [h]
    constructor
    · intro h'
      refine ⟨c, cs, rfl, ?_, ?_, ?_⟩
      all_goals (repeat' split at h') <;> simp_all
    · rintro ⟨d, ds, he, hs, ha, hl⟩
      obtain ⟨rfl, rfl⟩ := List.cons.inj he
      rw [if_neg (by omega), if_neg (by simp [hs]), if_neg (by simp only [ha]; decide)]

end Identifier

/-! ## Column types -/

/-- Whether a name can be the type of a cast: words of letters, digits and underscores, the first
starting with a letter and the last ending in no blank, perhaps followed by brackets. -/
def ColumnType.isUsable (name : String) : Bool :=
  let cs := name.toList
  let base := if ['[', ']'].isSuffixOf cs then cs.take (cs.length - 2) else cs
  (match base with
    | [] => false
    | c :: _ => c.isAlpha) &&
  base.all (fun c => isNameChar c || c == ' ') &&
  base.getLast? != some ' ' &&
  name.utf8ByteSize ≤ maxNameLength

/-- The name of a type that a placeholder may be cast to. -/
structure ColumnType where
  name : String
  usable : ColumnType.isUsable name = true
deriving DecidableEq

/-- The column type with the given name, or the reason to reject it. -/
def ColumnType.ofName (name : String) : Except NameError ColumnType :=
  if h : ColumnType.isUsable name = true then .ok ⟨name, h⟩ else .error (.badType name)

/-! ## Lists of columns -/

/-- A list of columns, or all of them. -/
inductive Columns where
  | all
  | named (columns : List Identifier)
deriving DecidableEq

namespace Columns

/-- The columns that names stand for: no name at all, or a star among them, means every column;
otherwise the first name that is rejected is reported. -/
def ofNames (names : List String) : Except NameError Columns :=
  if names.isEmpty || names.contains "*" then .ok .all
  else return .named (← names.mapM Identifier.ofName)

def text : Columns → String
  | .all => "*"
  | .named columns => String.intercalate ", " (columns.map Identifier.quoted)

end Columns

/-! ## Slots -/

/-- A place in a statement for one bound value, with the type that its placeholder is cast to. -/
structure Slot where
  cast : Option ColumnType
  value : Json
deriving DecidableEq

namespace Slot

/-- The placeholder with the given number. -/
def text (number : Nat) (slot : Slot) : String :=
  "$" ++ toString number ++ (match slot.cast with
    | none => ""
    | some type => "::" ++ type.name)

end Slot

/-- The cast registered for a column, if any. -/
def castOf (types : Keyed String) (column : String) : Except NameError (Option ColumnType) :=
  match Keyed.get? column types with
  | none => .ok none
  | some name => do return some (← ColumnType.ofName name)

end Rowgate.Sql
