import Rowgate.Binary.Shortest
import Rowgate.Json.Value
/-
Writing JSON text, on one line or indented.

Members are written in the order in which the value holds them. A floating point number has the
fewest digits that read back and always shows its kind, by a point or an exponent.
-/
set_option autoImplicit false

namespace Rowgate.Json

/-! ## Numbers -/

/-- Digits without the zeros at their end, and how many of those there were. -/
def dropTrailingZeros (ds : List Char) : List Char × Nat :=
  let kept := (ds.reverse.dropWhile (· == '0')).reverse
  (kept, ds.length - kept.length)

/-- The least and the largest exponent of the leading digit that is written positionally. -/
def positionalRange : Int × Int := (-5, 15)

/-- The text of an exponent: its sign and at least two digits. -/
def exponentText (e : Int) : String :=
  let ds := Nat.toDigits 10 e.natAbs
  (if e < 0 then "e-" else "e+") ++ String.ofList (List.replicate (2 - ds.length) '0' ++ ds)

/-- Positive decimal text: positional in the middle range, with at least one digit on either side
of the point; otherwise one leading digit and an exponent, without a point if it is the only one. -/
def decimalText (d : Decimal) : String :=
  let (ds, zeros) := dropTrailingZeros (Nat.toDigits 10 d.digits)
  let lead : Int := d.exponent + zeros + ds.length - 1
  if lead < positionalRange.1 ∨ positionalRange.2 < lead then
    let fraction := ds.drop 1
    let point := if fraction.isEmpty then "" else "."
    String.ofList (ds.take 1) ++ point ++ String.ofList fraction ++ exponentText lead
  else if lead < 0 then
    "0." ++ String.ofList (List.replicate (-lead - 1).toNat '0' ++ ds)
  else
    let whole := ds.take (lead.toNat + 1)
    let padding := List.replicate (lead.toNat + 1 - whole.length) '0'
    let fraction := ds.drop (lead.toNat + 1)
    String.ofList (whole ++ padding) ++ "." ++
      String.ofList (if fraction.isEmpty then ['0'] else fraction)

/-- The text of a finite floating point number. -/
def floatText (x : Double) : String :=
  (if x.isNegative then "-" else "") ++
    (if x.magnitude = 0 then "0.0" else decimalText x.shortest)

/-! ## Strings -/

/-- The written form of one character inside a string. -/
def escapeChar (c : Char) : List Char :=
  match c with
  | '"' => ['\\', '"']
  | '\\' => ['\\', '\\']
  | '\x08' => ['\\', 'b']
  | '\x0c' => ['\\', 'f']
  | '\n' => ['\\', 'n']
  | '\r' => ['\\', 'r']
  | '\t' => ['\\', 't']
  | c =>
    if c.toNat < 0x20 then
      ['\\', 'u', '0', '0', Nat.digitChar (c.toNat / 16), Nat.digitChar (c.toNat % 16)]
    else [c]

def stringText (s : String) : String :=
  "\"" ++ String.ofList (s.toList.flatMap escapeChar) ++ "\""

/-! ## One line -/

mutual

/-- The text of a value without blanks. -/
def compact : Json → String
  | .null => "null"
  | .bool true => "true"
  | .bool false => "false"
  | .int n => toString n
  | .float x => if x.isNaN || x.isInfinite then "null" else floatText x
  | .string s => stringText s
  | .array items => "[" ++ String.intercalate "," (compactItems items) ++ "]"
  | .object members => "\x7b" ++ String.intercalate "," (compactMembers members) ++ "\x7d"

def compactItems : List Json → List String
  | [] => []
  | v :: rest => compact v :: compactItems rest

def compactMembers : List (String × Json) → List String
  | [] => []
  | (key, v) :: rest => (stringText key ++ ":" ++ compact v) :: compactMembers rest

end

/-! ## Indented -/

/-- A line break and the blanks of an indentation level. -/
def lineBreak (level : Nat) : String :=
  "\n" ++ String.ofList (List.replicate (2 * level) ' ')

/-- Parts on lines of their own between two brackets; without parts only the brackets. -/
def block (level : Nat) (opening closing : String) (parts : List String) : String :=
  if parts.isEmpty then opening ++ closing
  else
    opening ++ lineBreak (level + 1) ++
      String.intercalate ("," ++ lineBreak (level + 1)) parts ++ lineBreak level ++ closing

mutual

/-- The text of a value with each item and member on a line of its own. -/
def indented (level : Nat) : Json → String
  | .array items => block level "[" "]" (indentedItems level items)
  | .object members => block level "\x7b" "\x7d" (indentedMembers level members)
  | .null => "null"
  | .bool true => "true"
  | .bool false => "false"
  | .int n => toString n
  | .float x => if x.isNaN || x.isInfinite then "null" else floatText x
  | .string s => stringText s

def indentedItems (level : Nat) : List Json → List String
  | [] => []
  | v :: rest => indented (level + 1) v :: indentedItems level rest

def indentedMembers (level : Nat) : List (String × Json) → List String
  | [] => []
  | (key, v) :: rest =>
    (stringText key ++ ": " ++ indented (level + 1) v) :: indentedMembers level rest

end

/-- The indented text of a whole value. -/
def pretty (v : Json) : String := indented 0 v

end Rowgate.Json
