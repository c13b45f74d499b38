import Rowgate.Binary.Format
/-
Floating point numbers as texts.

A number is digits with a point before, inside or after them, and perhaps an exponent; the words for
infinity and for no number are taken in either case. A sign may stand in front of any of them. A
magnitude past the largest finite one is infinite.
-/
set_option autoImplicit false

namespace Rowgate.Text

/-- Splits at a leading sign: whether it is a minus, and the rest. -/
def splitSign : List Char → Bool × List Char
  | '-' :: rest => (true, rest)
  | '+' :: rest => (false, rest)
  | cs => (false, cs)

/-- The exponent behind its mark, with at least one digit; nothing at all is the exponent zero. -/
def readExponent? : List Char → Option Int
  | [] => some 0
  | c :: rest =>
    if c == 'e' || c == 'E' then
      let (negative, digits) := splitSign rest
      if digits.isEmpty || !digits.all Char.isDigit then none
      else
        let n : Int := (digits.foldl (fun n d => 10 * n + (d.toNat - '0'.toNat)) 0 : Nat)
        some (if negative then -n else n)
    else none

/-- The value that digits with a point and an exponent spell. -/
def readNumber? (f : FloatFormat) (negative : Bool) (cs : List Char) : Option (Binary f) :=
  let whole := cs.takeWhile Char.isDigit
  let rest := cs.dropWhile Char.isDigit
  let (fraction, rest) := match rest with
    | '.' :: rest => (rest.takeWhile Char.isDigit, rest.dropWhile Char.isDigit)
    | rest => ([], rest)
  if whole.isEmpty && fraction.isEmpty then none
  else (readExponent? rest).map fun e =>
    let digits := (whole ++ fraction).foldl (fun n d => 10 * n + (d.toNat - '0'.toNat)) 0
    Binary.ofDecimal negative digits (e - fraction.length)

/-- The value of the format nearest to what a text spells. -/
def readFloat? (f : FloatFormat) (s : String) : Option (Binary f) :=
  let (negative, cs) := splitSign s.toList
  let word := cs.map Char.toLower
  if word = "inf".toList ∨ word = "infinity".toList then some (Binary.infinity negative)
  else if word = "nan".toList then some Binary.nan
  else readNumber? f negative cs

end Rowgate.Text
