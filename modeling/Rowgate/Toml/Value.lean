import Rowgate.Json.Value
/-
Values of TOML.

A document may spell numbers that are past every type of number; such a number is a value of its
own, so that it does harm only where it is looked at. `Value.toJson?` looks at all of a value.
-/
set_option autoImplicit false

namespace Rowgate.Toml

inductive Value where
  | string (text : String)
  | boolean (value : Bool)
  | integer (value : Int)
  | float (value : Double)
  /-- a number past the largest of its kind -/
  | tooLarge
  /-- a date, a time or both, as it was written -/
  | datetime (text : String)
  | array (items : List Value)
  /-- a table, in the order of its keys -/
  | table (entries : List (String × Value))
deriving Repr, Inhabited

namespace Value

/-! ## Values as JSON -/

mutual

/-- The value as JSON, if no number in it is too large. A date or a time becomes an object of one
member that holds its text, so it is neither a string nor a number. -/
def toJson? : Value → Option Json
  | .string text => some (.string text)
  | .boolean b => some (.bool b)
  | .integer n => some (.int n)
  | .float x => some (.float x)
  | .tooLarge => none
  | .datetime text => some (.object [("datetime", .string text)])
  | .array items => (itemsToJson? items).map .array
  | .table entries => (entriesToJson? entries).map .object

def itemsToJson? : List Value → Option (List Json)
  | [] => some []
  | v :: rest => do return (← v.toJson?) :: (← itemsToJson? rest)

def entriesToJson? : List (String × Value) → Option (List (String × Json))
  | [] => some []
  | (key, v) :: rest => do return (key, ← v.toJson?) :: (← entriesToJson? rest)

end

/-! ## Rows in a table -/

/-- The value with at most `count` items in the array under a key; all else stays. -/
def takeRow (key : String) (count : Nat) : Value → Value
  | .table entries => .table (entries.map fun
      | (k, .array items) => (k, .array (if k = key then items.take count else items))
      | entry => entry)
  | v => v

end Value

end Rowgate.Toml
