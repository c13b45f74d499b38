import Rowgate.Binary.Format
/-
The fewest decimal digits that read back.

The reals that round to a value form an interval, from half way to the neighbour below to half
way to the neighbour above, with its ends exactly when the significand is even. For one digit, two
digits and so on, the two points of that decimal grid next to the value are tested against the
interval; the first grid with a hit wins, and of two hits the nearer one, a tie going to the even
digit. Comparisons are between naturals, so nothing is lost on the way.
-/
set_option autoImplicit false

namespace Rowgate

/-- The decimal `digits * 10 ^ exponent`. -/
structure Decimal where
  digits : Nat
  exponent : Int
deriving DecidableEq, Repr

namespace Binary

variable {f : FloatFormat}

/-- Compares `a * 10 ^ i` with `n * 2 ^ j`. -/
def compareScaled (a : Nat) (i : Int) (n : Nat) (j : Int) : Ordering :=
  compare (a * tenTo i.toNat * twoTo (-j).toNat) (n * twoTo j.toNat * tenTo (-i).toNat)

/-- The gap below a power of two is half the gap above it, except at the end of the subnormals. -/
def narrowBelow (x : Binary f) : Bool :=
  decide (x.magnitude % twoTo f.fractionBits = 0 ∧ twoTo f.fractionBits < x.magnitude)

/-- Whether the decimal lies among the reals that round to the magnitude of `x`. -/
def readsBack (x : Binary f) (d : Decimal) : Bool :=
  let (m, q) := x.parts
  let low := compareScaled d.digits d.exponent (4 * m - (if x.narrowBelow then 1 else 2)) (q - 2)
  let high := compareScaled d.digits d.exponent (4 * m + 2) (q - 2)
  let ends := decide (m % 2 = 0)
  (low == .gt || (ends && low == .eq)) && (high == .lt || (ends && high == .eq))

/-- The least `k` with `m * 2 ^ q < 10 ^ k`, found from an estimate that is at most two short. -/
def decimalScale (m : Nat) (q : Int) : Int :=
  let estimate := (((m.log2 : Int) + q) * 1233) / 4096 - 1
  let fits (k : Int) : Bool := compareScaled 1 k m q == .gt
  (([0, 1, 2, 3].map (estimate + ·)).find? fits).getD (estimate + 4)

/-- The decimal of the grid `10 ^ exponent` that reads back, if one of the two neighbours does. -/
def nearestOnGrid? (x : Binary f) (exponent : Int) : Option Decimal :=
  let (m, q) := x.parts
  let num := m * twoTo q.toNat * tenTo (-exponent).toNat
  let den := twoTo (-q).toNat * tenTo exponent.toNat
  let below : Decimal := ⟨num / den, exponent⟩
  let above : Decimal := ⟨num / den + 1, exponent⟩
  match x.readsBack below, x.readsBack above with
  | true, true => some ⟨roundHalfEven num den, exponent⟩
  | true, false => some below
  | false, true => some above
  | false, false => none

/-- The shortest decimal that reads back to the magnitude of a finite value other than zero.
Seventeen digits always suffice for the format of 64 bits; past them the exact value stands in. -/
def shortest (x : Binary f) : Decimal :=
  let (m, q) := x.parts
  let k := decimalScale m q
  let grids := (List.range 17).map fun n => k - (n + 1 : Nat)
  (grids.findSome? x.nearestOnGrid?).getD
    ⟨m * twoTo q.toNat * Nat.pow 5 (-q).toNat, -((-q).toNat : Int)⟩

end Binary

end Rowgate
