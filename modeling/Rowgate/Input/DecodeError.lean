import Rowgate.Json.Printer
import Rowgate.Text.Quoted
/-
Why an input does not decode, and how the reason is told.
-/
set_option autoImplicit false

namespace Rowgate.Input

/-- What was found in place of the expected. -/
inductive Found where
  | null
  | bool (value : Bool)
  | integer (value : Int)
  | float (value : Double)
  | text (value : String)
  | sequence
  | map
  | unitVariant
deriving DecidableEq, Repr

namespace Found

def ofJson : Json → Found
  | .null => .null
  | .bool b => .bool b
  | .int n => .integer n
  | .float x => .float x
  | .string s => .text s
  | .array _ => .sequence
  | .object _ => .map

def message : Found → String
  | .null => "null"
  | .bool b => "boolean `" ++ (if b then "true" else "false") ++ "`"
  | .integer n => "integer `" ++ toString n ++ "`"
  | .float x => "floating point `" ++ Json.floatText x ++ "`"
  | .text s => "string " ++ Text.quoted s
  | .sequence => "sequence"
  | .map => "map"
  | .unitVariant => "unit variant"

end Found

inductive DecodeError where
  | invalidType (found : Found) (expected : String)
  | invalidValue (found : Found) (expected : String)
  | invalidLength (length : Nat) (expected : String)
  | missingField (key : String)
  | duplicateField (key : String)
  | unknownField (key : String) (known : List String)
  | unknownVariant (name : String) (known : List String)
  | noVariant (name : String)
  /-- the fields that are left over hold no case of a variant -/
  | noFlatVariant (name : String)
  /-- fields that are left over are neither a record nor a map -/
  | notFlat
  /-- a kind of value that is not kept -/
  | unsupported (type : String)
  /-- a key that is no number, where one is wanted -/
  | keyNotNumeric
  /-- a key that starts like a number and is none; what its reader says of it is left out -/
  | malformedKey
  /-- the number in a key, which ends at the column, is refused -/
  | inKey (e : DecodeError) (column : Nat)
deriving DecidableEq, Repr

namespace DecodeError

def inBackticks (s : String) : String := "`" ++ s ++ "`"

/-- The names that would have been right: none, one, two, or a list of three and more. -/
def expectation (nothing : String) : List String → String
  | [] => nothing
  | [a] => "expected " ++ inBackticks a
  | [a, b] => "expected " ++ inBackticks a ++ " or " ++ inBackticks b
  | names => "expected one of " ++ String.intercalate ", " (names.map inBackticks)

def message : DecodeError → String
  | .invalidType found expected =>
    "invalid type: " ++ found.message ++ ", expected " ++ expected
  | .invalidValue found expected =>
    "invalid value: " ++ found.message ++ ", expected " ++ expected
  | .invalidLength length expected =>
    "invalid length " ++ toString length ++ ", expected " ++ expected
  | .missingField key => "missing field " ++ inBackticks key
  | .duplicateField key => "duplicate field " ++ inBackticks key
  | .unknownField key known =>
    "unknown field " ++ inBackticks key ++ ", " ++ expectation "there are no fields" known
  | .unknownVariant name known =>
    "unknown variant " ++ inBackticks name ++ ", " ++ expectation "there are no variants" known
  | .noVariant name => "data did not match any variant of untagged enum " ++ name
  | .noFlatVariant name => "no variant of enum " ++ name ++ " found in flattened data"
  | .notFlat => "can only flatten structs and maps"
  | .unsupported type => type ++ " is not supported"
  | .keyNotNumeric => "invalid value: expected key to be a number in quotes"
  | .malformedKey => "malformed number"
  | .inKey e column => e.message ++ " at line 1 column " ++ toString column

end DecodeError

end Rowgate.Input
