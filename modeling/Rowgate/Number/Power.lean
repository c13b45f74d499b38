/-
Powers of two and of ten.

They are written as functions of natural numbers alone, so that they mean the same whatever algebra
is in scope.
-/
set_option autoImplicit false

namespace Rowgate

/-- Two to a power. -/
abbrev twoTo (n : Nat) : Nat := Nat.pow 2 n

/-- Ten to a power. -/
abbrev tenTo (n : Nat) : Nat := Nat.pow 10 n

end Rowgate
