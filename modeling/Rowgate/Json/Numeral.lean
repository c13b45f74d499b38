import Rowgate.Json.Value
/-
Numerals: from the characters of a JSON number to its value.

A numeral without fraction and exponent is an integer when it fits 64 bits, signed or unsigned, and
is not `-0`; any other is a floating point number. For the latter the digits are gathered into a
significand of at most 64 bits, the digits past it only moving the exponent, and the significand's
nearest double is then multiplied or divided by a power of ten: one rounding each. A magnitude past
the largest double is no value.
-/
set_option autoImplicit false

namespace Rowgate.Json

/-- The parts of a written number. -/
structure Numeral where
  negative : Bool
  whole : List Char
  fraction : Option (List Char)
  /-- whether the exponent is negative, and its digits -/
  exponent : Option (Bool × List Char)

/-- The value of one decimal digit. -/
def digitValue (c : Char) : Nat := c.toNat - '0'.toNat

/-- The value of a run of decimal digits, or `bound` if it is not below. -/
def digitsBelow (bound : Nat) (ds : List Char) : Nat :=
  ds.foldl (fun n c => min bound (10 * n + digitValue c)) 0

/-! ## Scanning -/

/-- A run of digits with at least one, and what follows it. -/
def scanDigits? (cs : List Char) : Option (List Char × List Char) :=
  match cs.takeWhile Char.isDigit with
  | [] => none
  | ds => some (ds, cs.dropWhile Char.isDigit)

/-- The whole part: a zero alone, or digits that start with another one. -/
def scanWhole? : List Char → Option (List Char × List Char)
  | '0' :: rest => some (['0'], rest)
  | cs => scanDigits? cs

/-- The fraction after a point; without a point there is none. -/
def scanFraction? : List Char → Option (Option (List Char) × List Char)
  | '.' :: rest => (scanDigits? rest).map fun (ds, r) => (some ds, r)
  | cs => some (none, cs)

/-- The sign and the digits behind an exponent mark. -/
def scanSignedDigits? : List Char → Option ((Bool × List Char) × List Char)
  | '-' :: rest => (scanDigits? rest).map fun (ds, r) => ((true, ds), r)
  | '+' :: rest => (scanDigits? rest).map fun (ds, r) => ((false, ds), r)
  | cs => (scanDigits? cs).map fun (ds, r) => ((false, ds), r)

/-- The exponent after its mark; without a mark there is none. -/
def scanExponent? : List Char → Option (Option (Bool × List Char) × List Char)
  | 'e' :: rest | 'E' :: rest => (scanSignedDigits? rest).map fun (e, r) => (some e, r)
  | cs => some (none, cs)

/-- The longest numeral at the start of the characters, and what follows it. -/
def scanNumeral? (cs : List Char) : Option (Numeral × List Char) := do
  let (negative, cs) := match cs with
    | '-' :: rest => (true, rest)
    | cs => (false, cs)
  let (whole, cs) ← scanWhole? cs
  let (fraction, cs) ← scanFraction? cs
  let (exponent, cs) ← scanExponent? cs
  return (⟨negative, whole, fraction, exponent⟩, cs)

/-! ## The value of a numeral -/

/-- The largest significand that is gathered. -/
def maxSignificand : Nat := UInt64.size - 1

/-- Digits of the whole part: the first that does not fit and all after it move the exponent. -/
def gatherWhole : (significand exponent : Nat) → List Char → Nat × Nat
  | m, e, [] => (m, e)
  | m, e, c :: cs =>
    let m' := 10 * m + digitValue c
    if m' ≤ maxSignificand then gatherWhole m' e cs else (m, e + 1 + cs.length)

/-- Digits of the fraction: the first that does not fit and all after it are dropped. -/
def gatherFraction : (significand places : Nat) → List Char → Nat × Nat
  | m, p, [] => (m, p)
  | m, p, c :: cs =>
    let m' := 10 * m + digitValue c
    if m' ≤ maxSignificand then gatherFraction m' (p + 1) cs else (m, p)

/-- The double nearest to a power of ten. -/
def powerOfTen (n : Nat) : Double := Binary.ofRatio false (tenTo n) 1

/-- The largest power of ten that is a double. -/
def maxPower : Nat := 308

/-- A value times a power of ten. Below the smallest power the value is first divided by the largest
one; after two such steps it is zero. -/
def scale? : (steps : Nat) → Double → Int → Option Double
  | steps, x, e =>
    if e.natAbs ≤ maxPower then
      if 0 ≤ e then
        let y := x.mul (powerOfTen e.natAbs)
        if y.isInfinite then none else some y
      else some (x.div (powerOfTen e.natAbs))
    else if x.magnitude = 0 then some x
    else if 0 ≤ e then none
    else match steps with
      | 0 => some (Binary.signed false 0)
      | steps + 1 => scale? steps (x.div (powerOfTen maxPower)) (e + maxPower)

/-- The exponent from which on a written exponent counts as boundless. -/
def exponentBound : Nat := 2147483648

/-- The magnitude of a numeral as a double. -/
def Numeral.double? (n : Numeral) : Option Double :=
  let (m, e) := gatherWhole 0 0 n.whole
  let (m, p) := gatherFraction m 0 (n.fraction.getD [])
  let start : Int := (e : Int) - p
  match n.exponent with
  | none => scale? 3 (Binary.ofInt m) start
  | some (negative, ds) =>
    let x := digitsBelow exponentBound ds
    if x = exponentBound then
      if m ≠ 0 ∧ ¬ negative then none else some (Binary.signed false 0)
    else scale? 3 (Binary.ofInt m) (if negative then start - x else start + x)

/-- The numeral as a floating point number, if its magnitude is not past the largest double. -/
def Numeral.float? (n : Numeral) : Option Json :=
  n.double?.map fun x => .float (Binary.signed n.negative x.magnitude)

/-- The value of a numeral, if its magnitude is not past the largest double. -/
def Numeral.value? (n : Numeral) : Option Json :=
  if n.fraction.isSome || n.exponent.isSome then n.float? else
    let m := digitsBelow UInt64.size n.whole
    if n.negative then
      if 0 < m ∧ m ≤ twoTo 63 then some (.int (-m)) else n.float?
    else if m < UInt64.size then some (.int m) else n.float?

end Rowgate.Json
