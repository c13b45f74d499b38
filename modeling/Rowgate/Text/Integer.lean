import Rowgate.Number.Power
/-
Decimal integers within a range.

A text is read when it is a run of decimal digits behind at most one sign and its value lies in the
range. A minus sign is for ranges that hold negative numbers; a range without them refuses `-0` too.
-/
set_option autoImplicit false

namespace Rowgate.Text

/-- The integers of one kind: its name, and its least and its greatest number. -/
structure IntegerRange where
  name : String
  least : Int
  greatest : Int
deriving DecidableEq, Repr

namespace IntegerRange

/-- The numbers of `bits` bits with a sign. -/
def signed (bits : Nat) : IntegerRange :=
  ⟨"i" ++ toString bits, -(twoTo (bits - 1) : Nat), (twoTo (bits - 1) - 1 : Nat)⟩

/-- The numbers of `bits` bits without a sign. -/
def unsigned (bits : Nat) : IntegerRange :=
  ⟨"u" ++ toString bits, 0, (twoTo bits - 1 : Nat)⟩

def contains (range : IntegerRange) (n : Int) : Bool :=
  decide (range.least ≤ n) && decide (n ≤ range.greatest)

/-- The value of a run of decimal digits with at least one. -/
def readDigits? (cs : List Char) : Option Nat :=
  if cs.isEmpty || !cs.all Char.isDigit then none
  else some (cs.foldl (fun n c => 10 * n + (c.toNat - '0'.toNat)) 0)

/-- The number that a text spells, if it lies in the range. -/
def read? (range : IntegerRange) (s : String) : Option Int :=
  let value : Option Int :=
    match s.toList with
    | '+' :: digits => (readDigits? digits).map fun n => (n : Int)
    | '-' :: digits =>
    if range.least < 0 then (readDigits? digits).map fun n => -(n : Int) else none
    | digits => (readDigits? digits).map fun n => (n : Int)
  value.filter range.contains

end IntegerRange

end Rowgate.Text
