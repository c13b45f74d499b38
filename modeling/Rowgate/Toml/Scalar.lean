import Rowgate.Text.Integer
import Rowgate.Text.Real
import Rowgate.Toml.Value
/-
Scalars of TOML that stand without quotes: truth values, numbers, dates and times.

Underscores may stand between digits. Decimal numbers have no leading zero; hexadecimal, octal and
binary ones have no sign. A time may leave out its seconds.
-/
set_option autoImplicit false

namespace Rowgate.Toml

/-! ## Numbers -/

/-- Digits without the underscores between them; there is at least one digit. -/
def digits? (isDigit : Char → Bool) (cs : List Char) : Option (List Char) :=
  let groups := cs.splitOn '_'
  if groups.all fun group => !group.isEmpty && group.all isDigit then some groups.flatten else none

/-- The value of a digit in a base of up to sixteen. -/
def digitValue (c : Char) : Nat :=
  if c.isDigit then c.toNat - '0'.toNat else c.toLower.toNat - 'a'.toNat + 10

def isHexDigit (c : Char) : Bool :=
  c.isDigit || ('a' ≤ c && c ≤ 'f') || ('A' ≤ c && c ≤ 'F')

/-- The number that digits of a base spell. -/
def number? (base : Nat) (cs : List Char) : Option Nat := do
  let ds ← digits? (fun c => isHexDigit c && digitValue c < base) cs
  return ds.foldl (fun n c => base * n + digitValue c) 0

/-- The digits of a decimal number without a leading zero. -/
def decimalDigits? (cs : List Char) : Option (List Char) := do
  let ds ← digits? Char.isDigit cs
  if ds.length > 1 && ds.head? == some '0' then none else some ds

/-- The integer that characters spell, of any size. -/
def integer? (cs : List Char) : Option Int :=
  match cs with
  | '0' :: 'x' :: rest => (number? 16 rest).map (↑·)
  | '0' :: 'o' :: rest => (number? 8 rest).map (↑·)
  | '0' :: 'b' :: rest => (number? 2 rest).map (↑·)
  | cs => do
    let (negative, rest) := Text.splitSign cs
    let n : Int := (← number? 10 (← decimalDigits? rest) : Nat)
    return if negative then -n else n

/-- An integer as a value; one that has no place in 128 bits is too large. -/
def Value.ofInteger (n : Int) : Value :=
  if -(twoTo 127 : Nat) ≤ n ∧ n < (twoTo 128 : Nat) then .integer n else .tooLarge

/-- What the words for infinity and for no number stand for. -/
def floatWord? (cs : List Char) : Option Double :=
  let (negative, rest) := Text.splitSign cs
  if rest = "inf".toList then some (Binary.infinity negative)
  else if rest = "nan".toList then some Binary.nan
  else none

/-- A floating point number: digits, and then a point with digits behind it, an exponent or both. It
is infinite past the largest finite one. -/
def float? (cs : List Char) : Option Double := do
  let (negative, rest) := Text.splitSign cs
  let isMark (c : Char) : Bool := c == 'e' || c == 'E'
  let mantissa := rest.takeWhile (!isMark ·)
  let exponent := rest.dropWhile (!isMark ·)
  let whole ← decimalDigits? (mantissa.takeWhile (· != '.'))
  let fraction ← match mantissa.dropWhile (· != '.') with
    | [] => some []
    | _ :: ds => (digits? Char.isDigit ds).map ('.' :: ·)
  let exponent ← match exponent with
    | [] => some []
    | _ :: ds =>
      let (negative, ds) := Text.splitSign ds
      (digits? Char.isDigit ds).map fun ds => 'e' :: (if negative then ['-'] else []) ++ ds
  if fraction.isEmpty && exponent.isEmpty then none
  Text.readNumber? .double negative (whole ++ fraction ++ exponent)

/-- A floating point number as a value; an infinite one was written too large. -/
def Value.ofFloat (x : Double) : Value := if x.isInfinite then .tooLarge else .float x

/-! ## Dates and times -/

/-- A number of exactly `count` digits in front, and what follows it. -/
def fixedNumber? (count : Nat) (cs : List Char) : Option (Nat × List Char) :=
  let ds := cs.take count
  if ds.length = count ∧ ds.all Char.isDigit then
    some (ds.foldl (fun n c => 10 * n + (c.toNat - '0'.toNat)) 0, cs.drop count)
  else none

def daysOfMonth (year month : Nat) : Nat :=
  let leap := (year % 4 == 0 && year % 100 != 0) || year % 400 == 0
  if month = 2 then (if leap then 29 else 28)
  else if month = 4 ∨ month = 6 ∨ month = 9 ∨ month = 11 then 30
  else 31

/-- What follows a date. -/
def afterDate? (cs : List Char) : Option (List Char) := do
  let (year, '-' :: rest) ← fixedNumber? 4 cs | none
  let (month, '-' :: rest) ← fixedNumber? 2 rest | none
  let (day, rest) ← fixedNumber? 2 rest
  if 1 ≤ month ∧ month ≤ 12 ∧ 1 ≤ day ∧ day ≤ daysOfMonth year month then some rest else none

/-- What follows the fraction of a second, if there is one. -/
def afterFraction? : List Char → Option (List Char)
  | '.' :: rest =>
    if rest.head?.any Char.isDigit then some (rest.dropWhile Char.isDigit) else none
  | cs => some cs

/-- What follows a time of day. Without seconds it has no fraction either. -/
def afterTime? (cs : List Char) : Option (List Char) := do
  let (hour, ':' :: rest) ← fixedNumber? 2 cs | none
  let (minute, rest) ← fixedNumber? 2 rest
  if 23 < hour ∨ 59 < minute then none
  match rest with
  | ':' :: rest =>
    let (second, rest) ← fixedNumber? 2 rest
    if 60 < second then none else afterFraction? rest
  | rest => some rest

/-- Whether characters are the offset from universal time. -/
def isOffset : List Char → Bool
  | ['Z'] | ['z'] => true
  | sign :: rest =>
    (sign == '+' || sign == '-') &&
      match fixedNumber? 2 rest with
      | some (hour, ':' :: rest) =>
        match fixedNumber? 2 rest with
        | some (minute, []) => hour ≤ 23 && minute ≤ 59
        | _ => false
      | _ => false
  | [] => false

/-- Whether characters are a date, a time, or both with or without an offset. -/
def isDateTime (cs : List Char) : Bool :=
  match afterDate? cs with
  | some [] => true
  | some (mark :: rest) =>
    (mark == 'T' || mark == 't' || mark == ' ') &&
      match afterTime? rest with
      | some [] => true
      | some offset => isOffset offset
      | none => false
  | none => afterTime? cs == some []

/-! ## Scalars -/

/-- Whether a character ends a scalar. -/
def endsScalar (c : Char) : Bool :=
  c == ' ' || c == '\t' || c == '\r' || c == '\n' || c == ',' || c == ']' || c == '\x7d' || c == '#'

/-- The characters of a scalar, and what follows; one blank may stand between a date and a time. -/
def splitScalar (cs : List Char) : List Char × List Char :=
  let word := cs.takeWhile (!endsScalar ·)
  let rest := cs.dropWhile (!endsScalar ·)
  match rest with
  | ' ' :: time =>
    if afterDate? word == some [] && time.head?.any Char.isDigit then
      (word ++ ' ' :: time.takeWhile (!endsScalar ·), time.dropWhile (!endsScalar ·))
    else (word, rest)
  | _ => (word, rest)

/-- The value of a scalar. -/
def scalarValue? (cs : List Char) : Option Value :=
  if cs = "true".toList then some (.boolean true)
  else if cs = "false".toList then some (.boolean false)
  else if isDateTime cs then some (.datetime (String.ofList cs))
  else
    ((integer? cs).map Value.ofInteger).or
      (((floatWord? cs).map Value.float).or ((float? cs).map Value.ofFloat))

end Rowgate.Toml
