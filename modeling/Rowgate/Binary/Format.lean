import Rowgate.Number.Power
/-
Binary floating point as exact arithmetic on bit patterns.

A value is its bit pattern, a natural number, at a stated format. Every conversion into a format
goes through one function, `FloatFormat.roundBits`, which rounds a quotient of naturals to the
nearest representable magnitude, a half going to the even neighbour. Because the quotient is
exact, each operation built on it (reading a decimal, multiplying, dividing, narrowing) rounds
once and nowhere else.
-/
set_option autoImplicit false

namespace Rowgate

/-! ## Formats -/

/-- A binary interchange format: how many bits hold the fraction and how many the exponent. -/
structure FloatFormat where
  fractionBits : Nat
  exponentBits : Nat
deriving DecidableEq, Repr

namespace FloatFormat

/-- The format of 64 bits. -/
def double : FloatFormat := ⟨52, 11⟩

/-- The format of 32 bits. -/
def single : FloatFormat := ⟨23, 8⟩

/-- The offset of the stored exponent, also the largest exponent of a finite value. -/
def bias (f : FloatFormat) : Nat := twoTo (f.exponentBits - 1) - 1

/-- The pattern of positive infinity: all exponent bits set and no fraction. -/
def infinityBits (f : FloatFormat) : Nat := (twoTo f.exponentBits - 1) * twoTo f.fractionBits

/-- The pattern of the quiet value that is not a number. -/
def nanBits (f : FloatFormat) : Nat := f.infinityBits + twoTo (f.fractionBits - 1)

/-- The weight of the sign bit. -/
def signWeight (f : FloatFormat) : Nat := twoTo (f.exponentBits + f.fractionBits)

end FloatFormat

/-- The integer nearest to `num / den`, a half going to the even neighbour. -/
def roundHalfEven (num den : Nat) : Nat :=
  let q := num / den
  let r := num % den
  if 2 * r < den then q
  else if den < 2 * r then q + 1
  else if q % 2 = 0 then q else q + 1

namespace FloatFormat

/-- The exponent `e` with `2 ^ e ≤ num / den < 2 ^ (e + 1)`, for positive `num` and `den`. -/
def binaryExponent (num den : Nat) : Int :=
  let e : Int := (num.log2 : Int) - den.log2
  if den * twoTo e.toNat ≤ num * twoTo (-e).toNat then e else e - 1

/-- **Rounding.** The pattern of the magnitude nearest to `num / den`. The quantum is that of the
quotient's own binade, or of the subnormal range below it; a carry out of the fraction lands in
the exponent field, which is the next binade; what passes the largest finite value is infinity. -/
def roundBits (f : FloatFormat) (num den : Nat) : Nat :=
  if num = 0 then 0 else
    let least : Int := 1 - (f.bias : Int)
    let e := max (binaryExponent num den) least
    let quantum := e - f.fractionBits
    let q := roundHalfEven (num * twoTo (-quantum).toNat) (den * twoTo quantum.toNat)
    min ((e - least).toNat * twoTo f.fractionBits + q) f.infinityBits

end FloatFormat

/-! ## Values -/

/-- A floating point value of the format `f`, as its bit pattern. -/
structure Binary (f : FloatFormat) where
  bits : Nat
deriving DecidableEq, Repr

/-- A value of the format of 64 bits. -/
abbrev Double := Binary .double

namespace Binary

variable {f : FloatFormat}

/-- The value with the given sign and magnitude pattern. -/
def signed (negative : Bool) (magnitude : Nat) : Binary f :=
  ⟨if negative then f.signWeight + magnitude else magnitude⟩

/-- Whether the sign bit is set. -/
def isNegative (x : Binary f) : Bool := decide (f.signWeight ≤ x.bits)

/-- The pattern without its sign. -/
def magnitude (x : Binary f) : Nat := x.bits % f.signWeight

def isNaN (x : Binary f) : Bool := decide (f.infinityBits < x.magnitude)

def isInfinite (x : Binary f) : Bool := decide (x.magnitude = f.infinityBits)

def nan : Binary f := ⟨f.nanBits⟩

def infinity (negative : Bool) : Binary f := signed negative f.infinityBits

/-- The value nearest to `num / den`, with the given sign. -/
def ofRatio (negative : Bool) (num den : Nat) : Binary f :=
  signed negative (f.roundBits num den)

/-- The value nearest to an integer. -/
def ofInt (n : Int) : Binary f := ofRatio (n < 0) n.natAbs 1

/-- The significand `m` and the scale `q` of a finite magnitude `m * 2 ^ q`. -/
def parts (x : Binary f) : Nat × Int :=
  let stored := x.magnitude / twoTo f.fractionBits
  let fraction := x.magnitude % twoTo f.fractionBits
  let least : Int := 1 - (f.bias : Int) - f.fractionBits
  if stored = 0 then (fraction, least)
  else (twoTo f.fractionBits + fraction, least + (stored - 1 : Nat))

/-- A finite magnitude as a quotient of naturals. -/
def ratio (x : Binary f) : Nat × Nat :=
  let (m, q) := x.parts
  (m * twoTo q.toNat, twoTo (-q).toNat)

/-- The product of two finite values, rounded once. -/
def mul (x y : Binary f) : Binary f :=
  let (a, b) := x.ratio
  let (c, d) := y.ratio
  ofRatio (x.isNegative != y.isNegative) (a * c) (b * d)

/-- The quotient of a finite value by a finite value other than zero, rounded once. -/
def div (x y : Binary f) : Binary f :=
  let (a, b) := x.ratio
  let (c, d) := y.ratio
  ofRatio (x.isNegative != y.isNegative) (a * d) (b * c)

/-- The value of another format nearest to `x`. -/
def convert {g : FloatFormat} (x : Binary f) : Binary g :=
  if x.isNaN then nan
  else if x.isInfinite then infinity x.isNegative
  else ofRatio x.isNegative x.ratio.1 x.ratio.2

/-- Ten to a power that may be negative, applied to a natural: the quotient `m * 10 ^ e`. -/
def decimalRatio (m : Nat) (e : Int) : Nat × Nat := (m * tenTo e.toNat, tenTo (-e).toNat)

/-- **Reading a decimal.** The value nearest to `m * 10 ^ e`. A magnitude of `10 ^ bias` or more
lies above every finite value and one below `10 ^ -(bias + fractionBits)` below half the least
one, so the power of ten is only formed in between. -/
def ofDecimal (negative : Bool) (m : Nat) (e : Int) : Binary f :=
  let lead := e + (Nat.toDigits 10 m).length
  if m = 0 ∨ lead < -((f.bias + f.fractionBits : Nat) : Int) then signed negative 0
  else if (f.bias : Int) < lead - 1 then infinity negative
  else
    let (num, den) := decimalRatio m e
    ofRatio negative num den

end Binary

end Rowgate
